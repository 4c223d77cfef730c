/-!
How views are looked up and rendered.
-/

namespace LiveViews.View

structure Settings where
  root : String := "Views"
  extension : String := ".liquid"
  locations : List String :=
    ["/\x7bcontroller\x7d/\x7bname\x7d.liquid", "/Shared/\x7bname\x7d.liquid"]
  fragments : List String :=
    ["/Partials/\x7bname\x7d.liquid", "/Shared/Partials/\x7bname\x7d.liquid"]
  maxWidgetDepth : Nat := 16
  /-- The most items that a literal range may have. -/
  maxRange : Nat := 10000
  homePage : String := "about"

end LiveViews.View
