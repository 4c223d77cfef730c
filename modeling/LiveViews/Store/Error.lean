/-!
Why a store refuses.
-/

namespace LiveViews.Store

inductive StoreError where
  /-- Another row holds this value of a unique column. -/
  | duplicate (table column value : String)
  | unknownId (table : String) (id : Int)
  | invalidSeed (file : String)
  | io (file : String)
  | backend
  | exhausted
  deriving DecidableEq

def StoreError.message : StoreError → String
  | .duplicate table column value =>
    "duplicate `" ++ column ++ "` = `" ++ value ++ "` in `" ++ table ++ "`"
  | .unknownId table id => "no row with id " ++ toString id ++ " in `" ++ table ++ "`"
  | .invalidSeed file => "seed file `" ++ file ++ "` is invalid"
  | .io file => "IO error when reading `" ++ file ++ "`"
  | .backend => "storage backend error"
  | .exhausted => "no sequence number is left"

end LiveViews.Store
