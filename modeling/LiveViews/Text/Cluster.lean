import LiveViews.Text.Blank
import LiveViews.Text.ClusterTable

/-!
Visible clusters: the longest runs of characters that a reader takes for one sign.
-/

namespace LiveViews.Text

inductive ClusterClass where
  | carriageReturn
  | lineFeed
  | control
  | extend
  | joiner
  | regional
  | prepend
  | spacing
  | leading
  | vowel
  | trailing
  | openSyllable
  | closedSyllable
  | pictograph
  | other
  deriving DecidableEq

def clusterClass (c : Char) : ClusterClass :=
  let code := c.toNat
  if code = 0xD then .carriageReturn
  else if code = 0xA then .lineFeed
  else if 0x20 ≤ code ∧ code < 0x7F then .other
  else if code = 0x200D then .joiner
  else if inRanges controlRanges c then .control
  else if inRanges extendRanges c then .extend
  else if 0x1F1E6 ≤ code ∧ code ≤ 0x1F1FF then .regional
  else if inRanges prependRanges c then .prepend
  else if inRanges spacingMarkRanges c then .spacing
  else if (0x1100 ≤ code ∧ code ≤ 0x115F) ∨ (0xA960 ≤ code ∧ code ≤ 0xA97C) then .leading
  else if inRanges vowelRanges c then .vowel
  else if (0x11A8 ≤ code ∧ code ≤ 0x11FF) ∨ (0xD7CB ≤ code ∧ code ≤ 0xD7FB) then .trailing
  else if 0xAC00 ≤ code ∧ code ≤ 0xD7A3 then
    if (code - 0xAC00) % 28 = 0 then .openSyllable else .closedSyllable
  else if inRanges pictographRanges c then .pictograph
  else .other

structure ClusterContext where
  previous : ClusterClass
  pictographOpen : Bool
  pictographJoined : Bool
  regionalOpen : Bool
  /-- A consonant and its marks stand before, with no sign that keeps consonants apart. -/
  consonantOpen : Bool
  consonantLinked : Bool

def ClusterContext.start (c : Char) : ClusterContext :=
  { previous := clusterClass c
    pictographOpen := clusterClass c = .pictograph
    pictographJoined := false
    regionalOpen := clusterClass c = .regional
    consonantOpen := inRanges linkedConsonantRanges c
    consonantLinked := false }

def ClusterContext.extend (before : ClusterContext) (c : Char) : ClusterContext :=
  let kind := clusterClass c
  let mark := (kind = .extend && c.toNat ≠ 0x200C) || kind = .joiner
  { previous := kind
    pictographOpen := kind = .pictograph || (before.pictographOpen && kind = .extend)
    pictographJoined := before.pictographOpen && kind = .joiner
    regionalOpen := kind = .regional && !before.regionalOpen
    consonantOpen := inRanges linkedConsonantRanges c || (before.consonantOpen && mark)
    consonantLinked :=
      before.consonantOpen && mark && (before.consonantLinked || inRanges linkerRanges c) }

def ClusterContext.holds (before : ClusterContext) (c : Char) : Bool :=
  match before.previous, clusterClass c with
  | .carriageReturn, .lineFeed => true
  | .carriageReturn, _ | .lineFeed, _ | .control, _ => false
  | _, .carriageReturn | _, .lineFeed | _, .control => false
  | .leading, .leading | .leading, .vowel | .leading, .openSyllable
  | .leading, .closedSyllable => true
  | .openSyllable, .vowel | .openSyllable, .trailing | .vowel, .vowel | .vowel, .trailing => true
  | .closedSyllable, .trailing | .trailing, .trailing => true
  | _, .extend | _, .joiner | _, .spacing => true
  | .prepend, _ => true
  | _, .pictograph => before.pictographJoined
  | _, .regional => before.regionalOpen
  | _, _ => before.consonantLinked && inRanges linkedConsonantRanges c

def clustersAfter (before : ClusterContext) (current : List Char) :
    List Char → List (List Char)
  | [] => [current.reverse]
  | c :: rest =>
    if before.holds c then clustersAfter (before.extend c) (c :: current) rest
    else current.reverse :: clustersAfter (.start c) [c] rest

def clusters : List Char → List (List Char)
  | [] => []
  | c :: rest => clustersAfter (.start c) [c] rest

end LiveViews.Text
