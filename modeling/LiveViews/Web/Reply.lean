/-!
Replies to requests.
-/

namespace LiveViews.Web

structure Reply where
  status : Nat
  contentType : String
  body : String
  deriving DecidableEq

namespace Reply

def html (body : String) : Reply :=
  ⟨200, "text/html; charset=utf-8", body⟩

def accepted : Reply :=
  ⟨200, "application/json; charset=utf-8", "true"⟩

def text (status : Nat) (body : String) : Reply :=
  ⟨status, "text/plain; charset=utf-8", body⟩

def notFound : Reply :=
  text 404 "404 Not Found"

def isFailure (reply : Reply) : Bool :=
  reply.status ≥ 500

end Reply

end LiveViews.Web
