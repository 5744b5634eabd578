import StubCompiler.Completion.Request

/-!
# Replies of the completion service

A reply is a text, no content, or an error.  Services like to wrap code in a markdown fence although
they are told not to; the fence is taken off.
-/

namespace StubCompiler

inductive ProviderError where
  | missingApiKey
  /-- The exchange failed before an answer arrived. -/
  | transport (detail : Text)
  /-- The answer has a status outside 200 to 299. -/
  | status (code : Nat) (body : Text)
  /-- The answer is not a chat completion. -/
  | undecodable (detail : Text)
deriving DecidableEq, Repr

def ProviderError.message : ProviderError → Text
  | .missingApiKey => "OPENAI_API_KEY is not set"
  | .transport detail => "completion request failed: " ++ detail
  | .status code body => "completion service returned " ++ Text.ofNat code ++ ": " ++ body
  | .undecodable detail => "could not decode completion response: " ++ detail

/-- A text, no content, or an error. -/
abbrev Reply := Except ProviderError (Option Text)

namespace Reply

def fence : Text := "```"

/-- A text that starts with a fence loses its first line and, blanks at the end aside, its last. -/
def unfence (t : Text) : Text :=
  if fence.isPrefixOf t then Text.unlines (t.trimEnd.lines.tail.dropLast) else t

/-- The block that a reply puts into the output: without a fence, and empty if nothing but blanks is
left. -/
def block (content : Option Text) : Text :=
  let body := unfence (content.getD [])
  if body.isBlankText then [] else body

/-- A reply with `content` in a fence with the given info string, followed by `tail`. -/
def fenced (info content tail : Text) : Text :=
  fence ++ info ++ "\n" ++ content ++ "\n" ++ fence ++ tail

end Reply

end StubCompiler
