import LiveViews.Proofs.Site.Coherence
import LiveViews.Proofs.Store.Numbering
import LiveViews.Proofs.Text.Trim

/-!
Writing pages. Requests that come to an empty store leave the pages that they come to when they are
taken one after another: a name that is stored gets the new content where it stands, any other name
is added at the end unless its path is taken. So every path is served with what was last written to
its page (`serves_last_write`).
-/

namespace LiveViews

open LiveViews.Store LiveViews.Text

structure PageWrite where
  now : Int
  request : PageRequest

def PageRequest.missing? (request : PageRequest) : Option String :=
  if trim request.name.toList = [] then some "Name"
  else if trim request.content.toList = [] then some "Content"
  else if trim request.path.toList = [] then some "Path"
  else none

namespace PageWrite

def edited (write : PageWrite) (page : Page) : Page :=
  { page with body := write.request.content, updatedAt := some write.now }

def added (write : PageWrite) (count : Nat) (path : String) : Page where
  id := count + 1
  name := write.request.name
  path := path
  body := write.request.content
  status := .active
  createdAt := write.now
  updatedAt := none
  layoutId := none

def edit (write : PageWrite) (pages : List Page) : List Page :=
  pages.map fun page => if page.name = write.request.name then write.edited page else page

/-- The answer to a request, and what it makes of the pages. -/
def outcome (extension : String) (pages : List Page) (write : PageWrite) :
    Except WriteError Page × List Page :=
  let path := View.normalPath extension write.request.path
  match write.request.missing? with
  | some field => (.error (.required field), pages)
  | none =>
    match pages.find? fun page => page.name = write.request.name with
    | some page => (.ok (write.edited page), write.edit pages)
    | none =>
      if ∃ page ∈ pages, page.path = path then
        (.error (.store (.duplicate "pages" "path" path)), pages)
      else (.ok (write.added pages.length path), pages ++ [write.added pages.length path])

end PageWrite

def writtenPages (extension : String) (writes : List PageWrite) :
    List (Except WriteError Page) × List Page :=
  writes.foldl (fun before write =>
    let (answer, pages) := write.outcome extension before.2
    (before.1 ++ [answer], pages)) ([], [])

def acceptedFor (name : String) (writes : List PageWrite)
    (answers : List (Except WriteError Page)) : List PageWrite :=
  ((writes.zip answers).filter fun entry =>
    entry.1.request.name = name && entry.2.isOk).map Prod.fst

def Site.serveWrites (site : Site) (writes : List PageWrite) :
    List (Except WriteError Page) × Site :=
  writes.foldl (fun before write =>
    let (answer, site) := writePage write.request { before.2 with now := write.now }
    (before.1 ++ [answer], site)) ([], site)

theorem blank?_eq (request : PageRequest) : request.blank? = request.missing? := by
  have blank : ∀ text : String, blankText text = decide (trim text.toList = []) := by
    intro text
    rw [Bool.eq_iff_iff, decide_eq_true_eq, trim_eq_nil]
    exact List.all_eq_true
  simp only [PageRequest.blank?, firstBlank, List.find?_cons, List.find?_nil, blank,
    PageRequest.missing?]
  by_cases name : trim request.name.toList = []
  · simp [name]
  · by_cases content : trim request.content.toList = []
    · simp [name, content]
    · by_cases path : trim request.path.toList = [] <;> simp [name, content, path]

theorem PageWrite.outcome_cases (write : PageWrite) (extension : String) (pages : List Page) :
    (∃ error, write.outcome extension pages = (.error error, pages)) ∨
    (∃ page ∈ pages, page.name = write.request.name ∧
      write.outcome extension pages = (.ok (write.edited page), write.edit pages)) ∨
    ∃ path, (∀ page ∈ pages, page.name ≠ write.request.name) ∧
      (∀ page ∈ pages, page.path ≠ path) ∧ write.outcome extension pages =
        (.ok (write.added pages.length path), pages ++ [write.added pages.length path]) := by
  unfold outcome
  cases write.request.missing? with
  | some field => exact Or.inl ⟨_, rfl⟩
  | none =>
      cases found : pages.find? fun page => page.name = write.request.name with
      | some page =>
          have named : page.name = write.request.name := by simpa using List.find?_some found
          exact Or.inr (Or.inl ⟨page, List.mem_of_find?_eq_some found, named, rfl⟩)
      | none =>
          have newName : ∀ page ∈ pages, page.name ≠ write.request.name := by
            simpa using found
          by_cases taken : ∃ page ∈ pages, page.path =
              View.normalPath extension write.request.path
          · exact Or.inl ⟨_, if_pos taken⟩
          · refine Or.inr (Or.inr ⟨_, newName, ?_, if_neg taken⟩)
            exact fun page member same => taken ⟨page, member, same⟩

/-- Pages as requests leave them: numbered from one, active, no name and no path twice. -/
structure Shelved (pages : List Page) : Prop where
  numbered : pages.map Page.id = (List.range pages.length).map fun count : Nat => (count : Int) + 1
  names : (pages.map Page.name).Nodup
  paths : (pages.map Page.path).Nodup
  active : ∀ page ∈ pages, page.status = .active

namespace Shelved

variable {pages : List Page}

theorem nil : Shelved [] := ⟨rfl, List.nodup_nil, List.nodup_nil, by simp⟩

theorem ordered (shelved : Shelved pages) : Ordered pages :=
  Numbered.ordered shelved.numbered

theorem eq_of_name (shelved : Shelved pages) {first second : Page} (firstMem : first ∈ pages)
    (secondMem : second ∈ pages) (same : first.name = second.name) : first = second :=
  List.inj_on_of_nodup_map shelved.names firstMem secondMem same

theorem eq_of_path (shelved : Shelved pages) {first second : Page} (firstMem : first ∈ pages)
    (secondMem : second ∈ pages) (same : first.path = second.path) : first = second :=
  List.inj_on_of_nodup_map shelved.paths firstMem secondMem same

theorem find?_path (shelved : Shelved pages) {page : Page} (member : page ∈ pages) :
    (pages.find? fun other => other.path = page.path && other.status = .active) = some page := by
  cases found : pages.find? fun other => other.path = page.path && other.status = .active with
  | none =>
      have nothing := List.find?_eq_none.mp found page member
      simp [shelved.active page member] at nothing
  | some other =>
      have here : other.path = page.path ∧ other.status = .active := by
        simpa using List.find?_some found
      rw [shelved.eq_of_path (List.mem_of_find?_eq_some found) member here.1]

theorem edit (shelved : Shelved pages) (write : PageWrite) : Shelved (write.edit pages) := by
  have kept : ∀ {β : Type} (field : Page → β), (∀ page, field (write.edited page) = field page) →
      (write.edit pages).map field = pages.map field := by
    intro β field same
    unfold PageWrite.edit
    rw [List.map_map]
    refine List.map_congr_left fun page _ => ?_
    rw [Function.comp_apply]
    split
    · exact same page
    · rfl
  constructor
  · rw [kept Page.id fun _ => rfl, shelved.numbered]
    simp [PageWrite.edit]
  · rw [kept Page.name fun _ => rfl]
    exact shelved.names
  · rw [kept Page.path fun _ => rfl]
    exact shelved.paths
  · intro page member
    obtain ⟨old, oldMem, rfl⟩ := List.mem_map.mp member
    have active := shelved.active old oldMem
    split
    · exact active
    · exact active

theorem add (shelved : Shelved pages) (write : PageWrite) {path : String}
    (newName : ∀ page ∈ pages, page.name ≠ write.request.name)
    (newPath : ∀ page ∈ pages, page.path ≠ path) :
    Shelved (pages ++ [write.added pages.length path]) := by
  constructor
  · rw [List.map_append, shelved.numbered, List.length_append, List.length_singleton,
      List.range_succ, List.map_append]
    rfl
  · rw [List.map_append, List.nodup_append]
    refine ⟨shelved.names, List.nodup_singleton _, ?_⟩
    intro name member other here
    obtain ⟨page, known, rfl⟩ := List.mem_map.mp member
    rw [List.mem_singleton.mp here]
    exact newName page known
  · rw [List.map_append, List.nodup_append]
    refine ⟨shelved.paths, List.nodup_singleton _, ?_⟩
    intro name member other here
    obtain ⟨page, known, rfl⟩ := List.mem_map.mp member
    rw [List.mem_singleton.mp here]
    exact newPath page known
  · intro page member
    rcases List.mem_append.mp member with old | here
    · exact shelved.active page old
    · rw [List.mem_singleton.mp here]
      rfl

theorem outcome (shelved : Shelved pages) (extension : String) (write : PageWrite) :
    Shelved (write.outcome extension pages).2 := by
  rcases write.outcome_cases extension pages with ⟨_, same⟩ | ⟨_, _, _, same⟩ |
    ⟨_, newName, newPath, same⟩
  · rw [same]
    exact shelved
  · rw [same]
    exact shelved.edit write
  · rw [same]
    exact shelved.add write newName newPath

end Shelved

theorem withId_name (page : Page) (id : Int) : (Row.withId page id).name = page.name := rfl

theorem clash?_page (row other : Page) : clash? row other =
    if row.name = other.name then some ("name", row.name)
    else if row.path = other.path then some ("path", row.path) else none := by
  unfold clash?
  simp only [Row.uniqueKeys, List.zip_cons_cons, List.zip_nil_right, List.findSome?_cons,
    List.findSome?_nil]
  by_cases name : row.name = other.name
  · simp [name]
  · by_cases path : row.path = other.path <;> simp [name, path]

theorem checkUnique_page {rows : List Page} {row : Page}
    (names : ∀ other ∈ rows, other.id ≠ row.id → other.name ≠ row.name) : checkUnique rows row =
      if ∃ other ∈ rows, other.id ≠ row.id ∧ other.path = row.path then
        .error (.duplicate "pages" "path" row.path)
      else .ok () := by
  have clashes : ∀ other ∈ rows.filter fun other => Row.id other ≠ Row.id row,
      clash? row other = if other.path = row.path then some ("path", row.path) else none := by
    intro other member
    obtain ⟨known, different⟩ := List.mem_filter.mp member
    have apart : ¬row.name = other.name :=
      fun same => names other known (of_decide_eq_true different) same.symm
    rw [clash?_page, if_neg apart]
    exact if_congr eq_comm rfl rfl
  unfold checkUnique
  dsimp only
  by_cases taken : ∃ other ∈ rows, other.id ≠ row.id ∧ other.path = row.path
  · obtain ⟨other, member, different, same⟩ := taken
    have inside : other ∈ rows.filter fun other => Row.id other ≠ Row.id row :=
      List.mem_filter.mpr ⟨member, decide_eq_true different⟩
    rw [if_pos ⟨other, member, different, same⟩]
    cases found : (rows.filter fun other => Row.id other ≠ Row.id row).findSome? (clash? row) with
    | none =>
        have nothing := List.findSome?_eq_none_iff.mp found other inside
        rw [clashes other inside, if_pos same] at nothing
        cases nothing
    | some clash =>
        obtain ⟨first, firstMem, clashed⟩ := List.exists_of_findSome?_eq_some found
        rw [clashes first firstMem] at clashed
        split at clashed
        · cases clashed
          rfl
        · cases clashed
  · have nothing : (rows.filter fun other => Row.id other ≠ Row.id row).findSome? (clash? row) =
        none := by
      refine List.findSome?_eq_none_iff.mpr fun other inside => ?_
      obtain ⟨member, different⟩ := List.mem_filter.mp inside
      rw [clashes other inside, if_neg]
      exact fun same => taken ⟨other, member, of_decide_eq_true different, same⟩
    rw [if_neg taken, nothing]

/-- How many pages can be added before their ids are no longer the numbers that they stand for. -/
def pageLimit : Nat := 2147483648

def tableOf (pages : List Page) : Table Page :=
  ⟨pages, pages.length⟩

section Steps

variable {site : Site} {pages : List Page} {write : PageWrite}

theorem checkUnique_added (shelved : Shelved pages) {stored : Page}
    (numbered : stored.id = IdWidth.ofSequence .i32 (pages.length + 1))
    (left : pages.length < pageLimit) (newName : ∀ page ∈ pages, page.name ≠ stored.name) :
    checkUnique pages stored =
      if ∃ page ∈ pages, page.path = stored.path then .error (.duplicate "pages" "path" stored.path)
      else .ok () := by
  have fresh : ∀ page ∈ pages, page.id ≠ stored.id := by
    rw [numbered]
    exact Numbered.fresh shelved.numbered left
  have taken : (∃ page ∈ pages, page.id ≠ stored.id ∧ page.path = stored.path) ↔
      ∃ page ∈ pages, page.path = stored.path := by
    constructor
    · rintro ⟨page, member, _, same⟩
      exact ⟨page, member, same⟩
    · rintro ⟨page, member, same⟩
      exact ⟨page, member, fresh page member, same⟩
  rw [checkUnique_page fun page member _ => newName page member]
  exact if_congr taken rfl rfl

theorem insert_shelved (row : Page) (left : pages.length < pageLimit) :
    (tableOf pages).insert row =
      (checkUnique pages (Row.withId row (IdWidth.ofSequence .i32 (pages.length + 1)))).map fun _ =>
        let stored := Row.withId row (IdWidth.ofSequence .i32 (pages.length + 1))
        (stored, ⟨putRow stored pages, pages.length + 1⟩) := by
  have bound : pageLimit < sequenceBound := idLimit_lt_sequenceBound
  have room : (tableOf pages).sequence + 1 < sequenceBound := by
    show pages.length + 1 < sequenceBound
    omega
  exact Table.insert_eq row room

theorem insert_taken (shelved : Shelved pages) {row : Page} (left : pages.length < pageLimit)
    (newName : ∀ page ∈ pages, page.name ≠ row.name) (taken : ∃ page ∈ pages, page.path = row.path) :
    (tableOf pages).insert row = .error (.duplicate "pages" "path" row.path) := by
  rw [insert_shelved row left]
  generalize numbered : Row.withId row (IdWidth.ofSequence .i32 (pages.length + 1)) = stored
  have id : stored.id = IdWidth.ofSequence .i32 (pages.length + 1) := by
    rw [← numbered]
    exact LawfulRow.id_withId row _
  have name : stored.name = row.name := by rw [← numbered, withId_name]
  have path : stored.path = row.path := by rw [← numbered, withId_path]
  rw [← name] at newName
  rw [← path] at taken ⊢
  rw [checkUnique_added shelved id left newName, if_pos taken]
  rfl

theorem insert_free (shelved : Shelved pages) (now : site.now = write.now) {path : String}
    (left : pages.length + 1 < pageLimit)
    (newName : ∀ page ∈ pages, page.name ≠ write.request.name)
    (free : ¬∃ page ∈ pages, page.path = path) :
    (tableOf pages).insert (site.newPage write.request path) =
      .ok (write.added pages.length path,
        tableOf (pages ++ [write.added pages.length path])) := by
  have stored : Row.withId (site.newPage write.request path)
      (IdWidth.ofSequence .i32 (pages.length + 1)) = write.added pages.length path := by
    rw [ofSequence_below left, Site.newPage, now]
    rfl
  have numbered : (write.added pages.length path).id =
      IdWidth.ofSequence .i32 (pages.length + 1) := (ofSequence_below left).symm
  have accepted := checkUnique_added shelved numbered (by omega) newName
  have below : ∀ page ∈ pages, page.id < (write.added pages.length path).id := by
    intro page member
    obtain ⟨count, bound, known⟩ := Numbered.exists_number shelved.numbered member
    show Row.id page < (pages.length : Int) + 1
    omega
  rw [insert_shelved _ (by omega), stored, accepted.trans (if_neg free)]
  simp only [tableOf, putRow_of_below below, List.length_append, List.length_singleton]
  rfl

theorem update_shelved (shelved : Shelved pages) (now : site.now = write.now) {page : Page}
    (member : page ∈ pages) (named : page.name = write.request.name) :
    (tableOf pages).update (site.editedPage page write.request.content) =
      .ok (tableOf (write.edit pages)) := by
  have same : site.editedPage page write.request.content = write.edited page := by
    rw [Site.editedPage, now]
    rfl
  have known : ∃ other ∈ pages, Row.id other = Row.id (write.edited page) := ⟨page, member, rfl⟩
  have names : ∀ other ∈ pages, other.id ≠ (write.edited page).id →
      other.name ≠ (write.edited page).name := by
    intro other otherMem different sameName
    have own : other = page := shelved.eq_of_name otherMem member sameName
    exact different (own ▸ rfl)
  have free : ¬∃ other ∈ pages, other.id ≠ (write.edited page).id ∧
      other.path = (write.edited page).path := by
    rintro ⟨other, otherMem, different, samePath⟩
    have own : other = page := shelved.eq_of_path otherMem member samePath
    exact different (own ▸ rfl)
  have replaced : putRow (write.edited page) pages = write.edit pages := by
    rw [putRow_eq_map shelved.ordered known]
    refine List.map_congr_left fun other otherMem => ?_
    show (if other.id = page.id then write.edited page else other) = _
    by_cases own : other = page
    · rw [own, if_pos rfl, if_pos named]
    · have otherId : ¬other.id = page.id :=
        fun sameId => own (shelved.ordered.eq_of_id otherMem member sameId)
      rw [if_neg otherId,
        if_neg fun sameName => own (shelved.eq_of_name otherMem member (sameName.trans named.symm))]
  have count : (write.edit pages).length = pages.length := List.length_map _
  have unique : checkUnique (tableOf pages).rows (write.edited page) = .ok () :=
    (checkUnique_page names).trans (if_neg free)
  rw [same, Table.update_eq known, unique]
  show Except.ok _ = _
  rw [tableOf, tableOf, replaced, count]

theorem writePage_table (calm : site.Calm) (request : PageRequest) :
    ((writePage request site).1, (writePage request site).2.stores.pages.table) =
      match request.blank? with
      | some field => (.error (.required field), site.stores.pages.table)
      | none =>
        match site.stores.pages.table.find? fun page => page.name = request.name with
        | none =>
          match site.stores.pages.table.insert
              (site.newPage request (site.normal request.path)) with
          | .error error => (.error (.store error), site.stores.pages.table)
          | .ok (stored, later) => (.ok stored, later)
        | some page =>
          match site.stores.pages.table.update (site.editedPage page request.content) with
          | .error error => (.error (.store error), site.stores.pages.table)
          | .ok later => (.ok (site.editedPage page request.content), later) := by
  have stores : (writePage request site).2.stores = (changePage request site).2.stores := by
    rw [writePage_eq calm]
    show ((changePage request site).2.signalAll _).fresh.stores = _
    rw [Site.fresh_signalAll]
    rfl
  have read := readPage_calm calm fun page => page.name = request.name
  rw [stores]
  unfold writePage changePage
  cases request.blank? with
  | some field => rfl
  | none =>
      simp only [normalOf, SiteM.bind_apply, SiteM.get_apply, SiteM.pure_apply, read]
      cases site.stores.pages.table.find? fun page => page.name = request.name with
      | none =>
          simp only [SiteM.bind_apply, addPage_eq, Repository.insert]
          unfold Site.normal
          cases site.stores.pages.table.insert (site.newPage request _) <;> rfl
      | some page =>
          simp only [SiteM.bind_apply, replacePage_eq, Repository.update]
          cases site.stores.pages.table.update (site.editedPage page request.content) <;> rfl

theorem writePage_shelved (calm : site.Calm) (table : site.stores.pages.table = tableOf pages)
    (shelved : Shelved pages) (now : site.now = write.now)
    (left : (write.outcome site.settings.extension pages).2.length < pageLimit) :
    ((writePage write.request site).1, (writePage write.request site).2.stores.pages.table) =
      ((write.outcome site.settings.extension pages).1,
        tableOf (write.outcome site.settings.extension pages).2) := by
  rw [writePage_table calm, blank?_eq, table]
  unfold PageWrite.outcome at left ⊢
  revert left
  cases write.request.missing? with
  | some field => exact fun _ => rfl
  | none =>
      intro left
      have search : ((tableOf pages).find? fun page => page.name = write.request.name) =
          pages.find? fun page => page.name = write.request.name := rfl
      rw [search]
      cases found : pages.find? fun page => page.name = write.request.name with
      | some page =>
          have member := List.mem_of_find?_eq_some found
          have named : page.name = write.request.name := by simpa using List.find?_some found
          simp only [update_shelved shelved now member named]
          rw [Site.editedPage, now]
          rfl
      | none =>
          have newName : ∀ page ∈ pages, page.name ≠ write.request.name := by
            simpa using found
          simp only [found] at left
          dsimp only
          by_cases taken : ∃ page ∈ pages, page.path =
              View.normalPath site.settings.extension write.request.path
          · rw [if_pos taken] at left ⊢
            have refused : (tableOf pages).insert
                (site.newPage write.request (site.normal write.request.path)) = _ :=
              insert_taken shelved left newName taken
            simp only [refused]
            rfl
          · rw [if_neg taken, List.length_append, List.length_singleton] at left
            have accepted : (tableOf pages).insert
                (site.newPage write.request (site.normal write.request.path)) = _ :=
              insert_free shelved now left newName taken
            rw [if_neg taken]
            simp only [accepted]
            rfl

theorem resolve_source (calm : site.Calm) (wired : site.Wired) (key : String) :
    (resolve key site).1.map (Option.map Prod.fst) = site.source key := by
  rw [Site.resolve_eq calm wired]
  rcases site.source key with error | (_ | source) <;> rfl

end Steps

section Runs

variable (extension : String) (writes : List PageWrite) (write : PageWrite)

theorem writtenPages_append : writtenPages extension (writes ++ [write]) =
    ((writtenPages extension writes).1 ++
        [(write.outcome extension (writtenPages extension writes).2).1],
      (write.outcome extension (writtenPages extension writes).2).2) := by
  unfold writtenPages
  rw [List.foldl_append]
  rfl

theorem serveWrites_append (site : Site) : site.serveWrites (writes ++ [write]) =
    ((site.serveWrites writes).1 ++
        [(writePage write.request { (site.serveWrites writes).2 with now := write.now }).1],
      (writePage write.request { (site.serveWrites writes).2 with now := write.now }).2) := by
  unfold Site.serveWrites
  rw [List.foldl_append]
  rfl

theorem length_answers : (writtenPages extension writes).1.length = writes.length := by
  induction writes using List.reverseRecOn with
  | nil => rfl
  | append_singleton earlier write ih =>
      rw [writtenPages_append, List.length_append, List.length_append, ih]
      rfl

theorem length_le_outcome (pages : List Page) :
    pages.length ≤ (write.outcome extension pages).2.length := by
  rcases write.outcome_cases extension pages with ⟨_, same⟩ | ⟨_, _, _, same⟩ | ⟨_, _, _, same⟩
  · rw [same]
  · rw [same]
    exact Nat.le_of_eq (List.length_map _).symm
  · rw [same, List.length_append]
    exact Nat.le_add_right _ _

theorem shelved_written : Shelved (writtenPages extension writes).2 := by
  induction writes using List.reverseRecOn with
  | nil => exact Shelved.nil
  | append_singleton earlier write ih =>
      rw [writtenPages_append]
      exact ih.outcome extension write

section Accepted

variable {writes write} {name : String} {answers : List (Except WriteError Page)}
  (sameLength : answers.length = writes.length)

include sameLength

theorem acceptedFor_append (answer : Except WriteError Page) :
    acceptedFor name (writes ++ [write]) (answers ++ [answer]) = acceptedFor name writes answers ++
      if write.request.name = name ∧ answer.isOk = true then [write] else [] := by
  unfold acceptedFor
  rw [List.zip_append sameLength.symm, List.filter_append, List.map_append]
  congr 1
  by_cases own : write.request.name = name ∧ answer.isOk = true
  · simp [own.1, own.2]
  · rw [if_neg own]
    simpa using own

theorem acceptedFor_own (page : Page) (own : write.request.name = name) :
    (acceptedFor name (writes ++ [write]) (answers ++ [.ok page])).getLast? = some write := by
  rw [acceptedFor_append sameLength, if_pos ⟨own, rfl⟩, List.getLast?_concat]

theorem acceptedFor_other {answer : Except WriteError Page}
    (other : write.request.name ≠ name ∨ answer.isOk = false) :
    acceptedFor name (writes ++ [write]) (answers ++ [answer]) = acceptedFor name writes answers := by
  rw [acceptedFor_append sameLength, if_neg, List.append_nil]
  rintro ⟨own, accepted⟩
  rcases other with different | refused
  · exact different own
  · rw [accepted] at refused
    cases refused

end Accepted

theorem holds_last_accepted {page : Page} (member : page ∈ (writtenPages extension writes).2) :
    ∃ write, (acceptedFor page.name writes (writtenPages extension writes).1).getLast? = some write ∧
      page.body = write.request.content ∧ page.updatedAt.getD page.createdAt = write.now := by
  -- On the last request: it is the last one of its own page, and no other page notices it.
  induction writes using List.reverseRecOn generalizing page with
  | nil => simp [writtenPages] at member
  | append_singleton earlier write ih =>
      have sameLength := length_answers extension earlier
      rw [writtenPages_append] at member ⊢
      simp only at member ⊢
      rcases write.outcome_cases extension (writtenPages extension earlier).2 with
        ⟨error, same⟩ | ⟨edited, _, _, same⟩ | ⟨path, newName, _, same⟩
      · rw [same] at member ⊢
        rw [acceptedFor_other sameLength (Or.inr rfl)]
        exact ih member
      · rw [same] at member ⊢
        obtain ⟨old, known, rfl⟩ := List.mem_map.mp member
        by_cases own : old.name = write.request.name
        · rw [if_pos own]
          exact ⟨write, acceptedFor_own sameLength _ own.symm, rfl, rfl⟩
        · rw [if_neg own, acceptedFor_other sameLength (Or.inl fun equal => own equal.symm)]
          exact ih known
      · rw [same] at member ⊢
        rcases List.mem_append.mp member with old | here
        · rw [acceptedFor_other sameLength (Or.inl fun equal => newName page old equal.symm)]
          exact ih old
        · rw [List.mem_singleton.mp here]
          exact ⟨write, acceptedFor_own sameLength _ rfl, rfl, rfl⟩

theorem serveWrites_eq {start : Site} (opened : start.Opened)
    (empty : start.stores.pages.table = {})
    (few : (writtenPages start.settings.extension writes).2.length < pageLimit) :
    (start.serveWrites writes).1 = (writtenPages start.settings.extension writes).1 ∧
      (start.serveWrites writes).2.stores.pages.table =
        tableOf (writtenPages start.settings.extension writes).2 ∧
      (start.serveWrites writes).2.Steady ∧
      (start.serveWrites writes).2.settings = start.settings := by
  induction writes using List.reverseRecOn with
  | nil => exact ⟨rfl, empty, opened.steady, rfl⟩
  | append_singleton earlier write ih =>
      rw [writtenPages_append] at few ⊢
      rw [serveWrites_append]
      have before := length_le_outcome start.settings.extension write
        (writtenPages start.settings.extension earlier).2
      obtain ⟨answers, table, steady, settings⟩ := ih (Nat.lt_of_le_of_lt before few)
      have shelved := shelved_written start.settings.extension earlier
      generalize (start.serveWrites earlier).2 = site at table steady settings ⊢
      have sameExtension := congrArg View.Settings.extension settings.symm
      rw [sameExtension] at few shelved answers table ⊢
      have waiting : ({ site with now := write.now } : Site).Steady := steady.operate (.elapse write.now)
      have written := writePage_shelved waiting.calm table shelved rfl few
      rw [Prod.mk.injEq] at written
      refine ⟨?_, written.2, waiting.operate (.writePage write.request), ?_⟩
      · rw [answers, written.1]
      · have kept := Prod.mk.inj (waiting.quiet.operate_setup (.writePage write.request))
        exact kept.1.trans settings

end Runs

/-- Requests to an empty store are answered, and leave the pages, as if they were taken one after
another. Each path is then served with what was last accepted for its page, and from the fallback if
it has no page. -/
theorem serves_last_write (start : Site) (opened : start.Opened)
    (empty : start.stores.pages.table = {}) (writes : List PageWrite)
    (few : (writtenPages start.settings.extension writes).2.length < pageLimit) :
    let answers := (writtenPages start.settings.extension writes).1
    let pages := (writtenPages start.settings.extension writes).2
    let site := (start.serveWrites writes).2
    (start.serveWrites writes).1 = answers ∧ site.stores.pages.table.rows = pages ∧
    ∀ key, let served := (resolve key site).1.map (Option.map Prod.fst)
      (∀ page ∈ pages, page.path = View.normalPath start.settings.extension key →
        ∃ write, (acceptedFor page.name writes answers).getLast? = some write ∧
          served = .ok (some ⟨write.request.content.toUTF8, some write.now⟩)) ∧
      ((∀ page ∈ pages, page.path ≠ View.normalPath start.settings.extension key) →
        served = fileSource site key) := by
  obtain ⟨answers, table, steady, settings⟩ := serveWrites_eq writes opened empty few
  have shelved := shelved_written start.settings.extension writes
  have rows : (start.serveWrites writes).2.stores.pages.table.rows =
      (writtenPages start.settings.extension writes).2 := by
    rw [table]
    rfl
  refine ⟨answers, rows, ?_⟩
  intro key
  dsimp only
  generalize (start.serveWrites writes).2 = site at steady settings rows ⊢
  have normal : site.normal key = View.normalPath start.settings.extension key := by
    rw [Site.normal, settings]
  have search : site.page? (site.normal key) =
      (writtenPages start.settings.extension writes).2.find? fun page =>
        page.path = View.normalPath start.settings.extension key && page.status = .active := by
    rw [Site.page?, Table.find?, rows, normal]
  rw [resolve_source steady.calm steady.indexed.wired, Site.source, search]
  constructor
  · intro page member here
    obtain ⟨write, last, body, time⟩ := holds_last_accepted start.settings.extension writes member
    have found := shelved.find?_path member
    rw [here] at found
    refine ⟨write, last, ?_⟩
    rw [found]
    show Except.ok (some (Source.mk page.body.toUTF8 (some (page.updatedAt.getD page.createdAt)))) = _
    rw [body, time]
  · intro nowhere
    have absent : ((writtenPages start.settings.extension writes).2.find? fun page =>
        page.path = View.normalPath start.settings.extension key && page.status = .active) = none := by
      refine List.find?_eq_none.mpr fun page member => ?_
      simp [nowhere page member]
    rw [absent]

def notes : List PageWrite :=
  [⟨1, ⟨"home", "Hello", "/Home/Index"⟩⟩, ⟨2, ⟨"Home", "Mine", "~/home/INDEX.liquid"⟩⟩,
    ⟨3, ⟨" ", "Nobody's", ""⟩⟩, ⟨4, ⟨"about", "Us", "/About"⟩⟩, ⟨5, ⟨"home", "Bye", "/elsewhere"⟩⟩]

theorem serves_last_write_notes : Site.Opened {} ∧
    (writtenPages ".liquid" notes).2.length < pageLimit ∧
    (Site.serveWrites {} notes).1 = (writtenPages ".liquid" notes).1 ∧
    (Site.serveWrites {} notes).2.stores.pages.table.rows = (writtenPages ".liquid" notes).2 := by
  have opened : Site.Opened {} := ⟨rfl, rfl, rfl, rfl⟩
  have few : (writtenPages ".liquid" notes).2.length < pageLimit := by decide +kernel
  have served := serves_last_write {} opened rfl notes few
  exact ⟨opened, few, served.1, served.2.1⟩

example : (writtenPages ".liquid" notes).2.map (fun page => (page.path, page.body)) =
    [("/home/index", "Bye"), ("/about", "Us")] := by
  decide +kernel

end LiveViews
