import StubCompiler.Completion.Reply
import StubCompiler.Json.Reader

/-!
# Answers of the completion service

An answer is judged by its status first: outside 200 to 299 it is an error, whatever its body.  Else
the body must be the JSON of a chat completion, and the content of its first choice is the reply.
Members that the library does not know are passed over, every choice is checked, and each of the three
kinds of object may also be written as the array of its members.  The body is the one that the client
hands over; whether an answer has a body at all is a matter of the client.
-/

namespace StubCompiler

structure Answer where
  status : Nat
  body : Text
deriving DecidableEq, Repr

namespace Answer

/-! ### The document -/

/-- The one member called `name`, if there is any.  A second one is an error, and so is a name that no
text can hold. -/
def member? (name : Text) (members : List (JsonString × Json)) : Option (Option Json) :=
  if members.any fun (key, _) => key.isNone then none
  else match members.filter fun (key, _) => key == some name with
    | [] => some none
    | [(_, value)] => some (some value)
    | _ => none

def textOrNull? : Json → Option (Option Text)
  | .null => some none
  | .string (some text) => some (some text)
  | _ => none

def message? : Json → Option (Option Text)
  | .object members =>
    match member? "content" members with
    | none => none
    | some none => some none
    | some (some content) => textOrNull? content
  | .array [content] => textOrNull? content
  | _ => none

def messageOrNull? : Json → Option (Option Text)
  | .null => some none
  | message => message? message

def choice? : Json → Option (Option Text)
  | .object members =>
    match member? "message" members with
    | none => none
    | some none => some none
    | some (some message) => messageOrNull? message
  | .array [message] => messageOrNull? message
  | _ => none

/-- The content of the first choice, provided that every choice can be read. -/
def choices? (choices : List Json) : Option (Option Text) :=
  (choices.mapM choice?).map fun contents => contents.head?.join

def document? : Json → Option (Option Text)
  | .object members =>
    match member? "choices" members with
    | none => none
    | some none => some none
    | some (some (.array choices)) => choices? choices
    | some (some _) => none
  | .array [] => some none
  | .array [.array choices] => choices? choices
  | _ => none

/-! ### Replies -/

def content (body : Text) : Reply :=
  match (Json.read? body).bind document? with
  | some content => .ok content
  | none => .error (.undecodable "the body is no chat completion")

def isSuccess (answer : Answer) : Bool := 200 ≤ answer.status && answer.status < 300

/-- The body without the byte order mark that may stand at its start. -/
def text (answer : Answer) : Text :=
  match answer.body with
  | '\uFEFF' :: rest => rest
  | body => body

/-- The reply that an answer stands for, once the client has handed it over. -/
def reply (answer : Answer) : Reply :=
  if answer.isSuccess then content answer.text else .error (.status answer.status answer.text)

/-- The answer of a service whose only choice has the given content. -/
def ofContent (content : Option Text) : Answer :=
  let value : Text := match content with
    | some text => Json.quote text
    | none => "null"
  ⟨200, "\x7b\"choices\":[\x7b\"message\":\x7b\"content\":" ++ value ++ "\x7d\x7d]\x7d"⟩

end Answer

end StubCompiler
