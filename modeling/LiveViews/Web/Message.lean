import LiveViews.Text.Numeral
import LiveViews.Text.Search
import LiveViews.Web.Reply

/-!
HTTP messages as they travel over a connection: the head of a request is read, a reply is written. A
connection carries one request.
-/

namespace LiveViews.Web

open LiveViews.Text

structure Head where
  method : String
  target : String
  length : Nat := 0
  deriving DecidableEq

/-- The bytes before the first empty line and those behind it; none while it has not come. -/
def splitHead? : List UInt8 → Option (List UInt8 × List UInt8)
  | 13 :: 10 :: 13 :: 10 :: rest => some ([], rest)
  | byte :: rest => (splitHead? rest).map fun (head, body) => (byte :: head, body)
  | [] => none

def fieldValue? (name line : List Char) : Option (List Char) :=
  let given := line.takeWhile (· ≠ ':')
  if given.map Char.toLower = name then
    some ((line.drop (given.length + 1)).dropWhile (· = ' '))
  else none

def contentLength (lines : List (List Char)) : Nat :=
  ((lines.findSome? (fieldValue? "content-length".toList)).bind readDigits?).getD 0

def Head.read? (text : String) : Option Head :=
  match splitOn ['\r', '\n'] text.toList with
  | first :: fields =>
    match splitOn [' '] first with
    | [method, target, _] =>
      some ⟨String.ofList method, String.ofList target, contentLength fields⟩
    | _ => none
  | [] => none

def phrase : Nat → String
  | 200 => "OK"
  | 400 => "Bad Request"
  | 404 => "Not Found"
  | 409 => "Conflict"
  | 500 => "Internal Server Error"
  | _ => ""

/-- The bytes of a reply; the answer to a `HEAD` request has no body. -/
def Reply.bytes (reply : Reply) (method : String) : ByteArray :=
  let body := reply.body.toUTF8
  let head := "HTTP/1.1 " ++ toString reply.status ++ " " ++ phrase reply.status ++
    "\r\nContent-Type: " ++ reply.contentType ++ "\r\nContent-Length: " ++ toString body.size ++
    "\r\nConnection: close\r\n\r\n"
  if method = "HEAD" then head.toUTF8 else head.toUTF8 ++ body

def unanswered : ByteArray :=
  "HTTP/1.1 500 Internal Server Error\r\nContent-Length: 0\r\nConnection: close\r\n\r\n".toUTF8

end LiveViews.Web
