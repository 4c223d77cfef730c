import LiveViews.Proofs.Text.Percent
import LiveViews.Site.Dispatch

/-!
The query of a request. The whole target is decoded before it is cut at its question mark: a query
that is a text when decoded changes nothing about a request, one that is none turns it into a request
for the home page (`route_under_query`).
-/

namespace LiveViews

open LiveViews.Text

theorem targetPath_of_undecoded {target : String} (undecoded : percentDecode? target = none) :
    targetPath target = "" := by
  unfold targetPath
  rw [undecoded]
  rfl

theorem targetPath_empty : targetPath "" = "" := by
  decide +kernel

theorem takeWhile_mark (left right : List Char) :
    (left ++ '?' :: right).takeWhile (fun c => c ≠ '?') = left.takeWhile fun c => c ≠ '?' := by
  induction left with
  | nil => rfl
  | cons c rest ih =>
      rw [List.cons_append, List.takeWhile_cons, List.takeWhile_cons, ih]

theorem targetPath_mark (path query : String) :
    targetPath (path ++ "?" ++ query) =
      targetPath (if (percentDecode? query).isSome then path else "") := by
  cases after : percentDecode? query with
  | none =>
      apply (targetPath_of_undecoded _).trans targetPath_empty.symm
      rw [percentDecode?_mark, after]
      cases percentDecode? path <;> rfl
  | some query =>
      rw [Option.isSome_some, if_pos rfl]
      unfold targetPath
      rw [percentDecode?_mark, after]
      cases percentDecode? path with
      | none => rfl
      | some path =>
          apply congrArg String.ofList
          simp only [Option.bind_some, Option.map_some, Option.getD_some, String.toList_append,
            List.append_assoc]
          exact takeWhile_mark _ _

theorem targetRoute_congr {target other : String} (path : targetPath target = targetPath other)
    (method : String) : targetRoute method target = targetRoute method other :=
  congrArg (Web.route method) path

theorem handleRequest_congr {target other : String} (path : targetPath target = targetPath other)
    (fuel : Nat) (method : String) (body : ByteArray) :
    handleRequest fuel method target body = handleRequest fuel method other body := by
  unfold handleRequest
  rw [targetRoute_congr path, path]

/-- A query leaves the route as it is exactly if it is a text when decoded, or the path alone is
routed like no path at all. The request is answered as one for the path in the first case, and as one
for no path in the other. -/
theorem route_under_query (method path query : String) :
    (targetRoute method (path ++ "?" ++ query) = targetRoute method path ↔
      (percentDecode? query).isSome ∨ targetRoute method path = targetRoute method "") ∧
    ∀ fuel body, handleRequest fuel method (path ++ "?" ++ query) body =
      handleRequest fuel method (if (percentDecode? query).isSome then path else "") body := by
  refine ⟨?_, fun fuel body => handleRequest_congr (targetPath_mark path query) fuel method body⟩
  rw [targetRoute_congr (targetPath_mark path query)]
  split
  next decoded => simp [decoded]
  next undecoded => simp [undecoded, eq_comm]

theorem home_under_query : targetRoute "GET" "/Home/Index" = .view none "Home" "Index" ∧
    targetRoute "GET" "/Home/Index?x=%FF" = .home := by
  decide +kernel

end LiveViews
