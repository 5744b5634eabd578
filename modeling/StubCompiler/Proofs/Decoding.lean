import StubCompiler.Proofs.Quoting
import StubCompiler.Proofs.Service

/-!
# What an answer is taken for

An answer is judged by its status first.  If the request was carried out, what the answer is taken for
is a matter of its body alone, and in the body of the members that the library knows: other members may
be added to the document, to a choice or to a message and nothing changes, provided that their names are
texts.  Of the choices the first one gives the content, and the others must be readable.

The body is that which the client hands over.  A client for HTTP hands over what has been sent, but no
body where the status says that there is none.
-/

namespace StubCompiler

/-! ### Members that are added -/

namespace Json

/-- `longer` holds the same members and others, which are not called `name`.  The values of the members
called `name` are related by `inner`. -/
inductive AddsMembers (name : Text) (inner : Json → Json → Prop) :
    List (JsonString × Json) → List (JsonString × Json) → Prop where
  | nil : AddsMembers name inner [] []
  | added {members longer : List (JsonString × Json)} {key : Text} (value : Json) (other : key ≠ name)
      (rest : AddsMembers name inner members longer) :
      AddsMembers name inner members ((some key, value) :: longer)
  | kept {members longer : List (JsonString × Json)} {key : JsonString} (value : Json)
      (other : key ≠ some name) (rest : AddsMembers name inner members longer) :
      AddsMembers name inner ((key, value) :: members) ((key, value) :: longer)
  | named {members longer : List (JsonString × Json)} {value value' : Json}
      (related : inner value value') (rest : AddsMembers name inner members longer) :
      AddsMembers name inner ((some name, value) :: members) ((some name, value') :: longer)

/-- The second value is the first one, with members added if it is an object. -/
inductive Adds (name : Text) (inner : Json → Json → Prop) : Json → Json → Prop where
  | same (value : Json) : Adds name inner value value
  | object {members longer : List (JsonString × Json)} (h : AddsMembers name inner members longer) :
      Adds name inner (.object members) (.object longer)

def AddsToMessage : Json → Json → Prop := Adds "content" Eq

def AddsToChoice : Json → Json → Prop := Adds "message" AddsToMessage

inductive AddsToChoices : Json → Json → Prop where
  | same (value : Json) : AddsToChoices value value
  | array {choices longer : List Json} (h : List.Forall₂ AddsToChoice choices longer) :
      AddsToChoices (.array choices) (.array longer)

/-- Members are added to a document, to its choices and to their messages. -/
def AddsToDocument : Json → Json → Prop := Adds "choices" AddsToChoices

/-- An object has a member whose name is no text, or the value of its member called `name` is one of those
that `inner` describes. -/
inductive LacksName (name : Text) (inner : Json → Prop) : Json → Prop where
  | here {members : List (JsonString × Json)} {value : Json} (h : (none, value) ∈ members) :
      LacksName name inner (.object members)
  | inside {members : List (JsonString × Json)} {value : Json} (h : (some name, value) ∈ members)
      (hvalue : inner value) : LacksName name inner (.object members)

def ChoiceLacksName : Json → Prop := LacksName "message" (LacksName "content" fun _ => False)

inductive ChoicesLackName : Json → Prop where
  | array {choices : List Json} {choice : Json} (h : choice ∈ choices) (hchoice : ChoiceLacksName choice) :
      ChoicesLackName (.array choices)

/-- A document, a choice in it or the message of one has a member whose name is no text. -/
def DocumentLacksName : Json → Prop := LacksName "choices" ChoicesLackName

section

variable {name : Text} {inner : Json → Json → Prop} {members longer : List (JsonString × Json)}

theorem AddsMembers.any_isNone (h : AddsMembers name inner members longer) :
    (longer.any fun (key, _) => key.isNone) = members.any fun (key, _) => key.isNone := by
  induction h with
  | nil => rfl
  | added value other rest ih =>
    rw [List.any_cons, ih]
    rfl
  | kept value other rest ih => rw [List.any_cons, List.any_cons, ih]
  | named related rest ih => rw [List.any_cons, List.any_cons, ih]

theorem AddsMembers.filter (h : AddsMembers name inner members longer) :
    List.Forall₂ (fun m l => inner m.2 l.2) (members.filter fun (key, _) => key == some name)
      (longer.filter fun (key, _) => key == some name) := by
  induction h with
  | nil => exact .nil
  | added value other rest ih =>
    rw [List.filter_cons_of_neg (by simpa using other)]
    exact ih
  | kept value other rest ih =>
    rw [List.filter_cons_of_neg (by simpa using other), List.filter_cons_of_neg (by simpa using other)]
    exact ih
  | named related rest ih =>
    rw [List.filter_cons_of_pos (by simp), List.filter_cons_of_pos (by simp)]
    exact .cons related ih

end

end Json

theorem JsonToken.next?_mark (t : Text) : next? '\uFEFF' t = none := by
  have hword : ∀ rest : Text, word? ('\uFEFF' :: rest) = none := by
    intro rest
    simp [word?]
  have hnumeric : isNumeric '\uFEFF' = false := by decide
  simp [next?, hnumeric, hword]

/-- A byte order mark starts no token. -/
theorem JsonToken.ofText?_mark (t : Text) : ofText? ('\uFEFF' :: t) = none := by
  have hspace : isSpace '\uFEFF' = false := by decide
  rw [ofText?, hspace, if_neg Bool.false_ne_true]
  split
  · rfl
  · rename_i heq
    rw [next?_mark] at heq
    cases heq

namespace Answer

variable {name : Text} {inner : Json → Json → Prop} {members longer : List (JsonString × Json)}

/-- What is made of an object by what `read` makes of its one member. -/
def within (read : Json → Option (Option Text)) : Option (Option Json) → Option (Option Text)
  | none => none
  | some none => some none
  | some (some value) => read value

theorem messageOrNull?_object (members : List (JsonString × Json)) :
    messageOrNull? (.object members) = within textOrNull? (member? "content" members) := by
  have hmessage : messageOrNull? (.object members) = message? (.object members) := rfl
  rw [hmessage, message?]
  cases member? "content" members with
  | none => rfl
  | some value => cases value <;> rfl

theorem choice?_object (members : List (JsonString × Json)) :
    choice? (.object members) = within messageOrNull? (member? "message" members) := by
  rw [choice?]
  cases member? "message" members with
  | none => rfl
  | some value => cases value <;> rfl

def choicesOf? : Json → Option (Option Text)
  | .array choices => choices? choices
  | _ => none

theorem document?_object (members : List (JsonString × Json)) :
    document? (.object members) = within choicesOf? (member? "choices" members) := by
  rw [document?]
  cases member? "choices" members with
  | none => rfl
  | some value =>
    cases value with
    | none => rfl
    | some value => cases value <;> rfl

theorem within_member?_adds {read : Json → Option (Option Text)}
    (h : Json.AddsMembers name inner members longer)
    (hread : ∀ value value', inner value value' → read value' = read value) :
    within read (member? name longer) = within read (member? name members) := by
  have hfilter := h.filter
  rw [member?, member?, h.any_isNone]
  split
  · rfl
  · cases hshort : members.filter fun (key, _) => key == some name with
    | nil =>
      rw [hshort, List.forall₂_nil_left_iff] at hfilter
      rw [hfilter]
    | cons first others =>
      rw [hshort, List.forall₂_cons_left_iff] at hfilter
      obtain ⟨first', others', hfirst, hothers, hlong⟩ := hfilter
      rw [hlong]
      cases hothers with
      | nil => exact hread _ _ hfirst
      | cons _ _ => rfl

theorem messageOrNull?_adds {value value' : Json} (h : Json.AddsToMessage value value') :
    messageOrNull? value' = messageOrNull? value := by
  cases h with
  | same => rfl
  | object h =>
    rw [messageOrNull?_object, messageOrNull?_object]
    exact within_member?_adds h fun _ _ heq => by rw [heq]

theorem choice?_adds {value value' : Json} (h : Json.AddsToChoice value value') :
    choice? value' = choice? value := by
  cases h with
  | same => rfl
  | object h =>
    rw [choice?_object, choice?_object]
    exact within_member?_adds h fun _ _ hmessage => messageOrNull?_adds hmessage

theorem choices?_adds {choices longer : List Json} (h : List.Forall₂ Json.AddsToChoice choices longer) :
    choices? longer = choices? choices := by
  have hmap : longer.mapM choice? = choices.mapM choice? := by
    induction h with
    | nil => rfl
    | cons hchoice _ ih => rw [List.mapM_cons, List.mapM_cons, choice?_adds hchoice, ih]
  rw [choices?, choices?, hmap]

/-- Members with other names do not change what a document says. -/
theorem document?_adds {value value' : Json} (h : Json.AddsToDocument value value') :
    document? value' = document? value := by
  cases h with
  | same => rfl
  | object h =>
    rw [document?_object, document?_object]
    refine within_member?_adds h fun _ _ hchoices => ?_
    cases hchoices with
    | same => rfl
    | array hchoices => exact choices?_adds hchoices

/-! ### Names that are no texts -/

theorem member?_eq_none {value : Json} (h : (none, value) ∈ members) : member? name members = none := by
  have hany : (members.any fun (key, _) => key.isNone) = true := List.any_eq_true.2 ⟨_, h, rfl⟩
  rw [member?, if_pos hany]

/-- A member that is there is the one that is found, unless none can be. -/
theorem member?_of_mem {value : Json} (h : (some name, value) ∈ members) :
    member? name members = none ∨ member? name members = some (some value) := by
  rw [member?]
  split
  · exact Or.inl rfl
  · have hmem : (some name, value) ∈ members.filter fun (key, _) => key == some name :=
      List.mem_filter.2 ⟨h, by simp⟩
    cases hfilter : members.filter fun (key, _) => key == some name with
    | nil =>
      rw [hfilter] at hmem
      cases hmem
    | cons first others =>
      cases others with
      | nil =>
        rw [hfilter, List.mem_singleton] at hmem
        rw [← hmem]
        exact Or.inr rfl
      | cons second others => exact Or.inl rfl

theorem within_member?_eq_none {read : Json → Option (Option Text)} {lacks : Json → Prop}
    (h : Json.LacksName name lacks (.object members)) (hread : ∀ value, lacks value → read value = none) :
    within read (member? name members) = none := by
  cases h with
  | here h => rw [member?_eq_none h, within]
  | inside h hvalue =>
    rcases member?_of_mem h with hnone | hsome
    · rw [hnone, within]
    · rw [hsome, within, hread _ hvalue]

theorem messageOrNull?_eq_none {value : Json} (h : Json.LacksName "content" (fun _ => False) value) :
    messageOrNull? value = none := by
  cases value with
  | object members =>
    rw [messageOrNull?_object]
    exact within_member?_eq_none h fun _ hfalse => hfalse.elim
  | _ => cases h

theorem choice?_eq_none {value : Json} (h : Json.ChoiceLacksName value) : choice? value = none := by
  cases value with
  | object members =>
    rw [choice?_object]
    exact within_member?_eq_none h fun _ hmessage => messageOrNull?_eq_none hmessage
  | _ => cases h

/-! ### The first choice -/

theorem choices?_cons_eq_some_iff {first : Json} {later : List Json} {content : Option Text} :
    choices? (first :: later) = some content ↔
      choice? first = some content ∧ ∀ choice ∈ later, choice? choice ≠ none := by
  have hlater : (∃ contents, later.mapM choice? = some contents) ↔
      ∀ choice ∈ later, choice? choice ≠ none := by
    induction later with
    | nil => simp
    | cons choice later ih =>
      rw [List.forall_mem_cons, ← ih, List.mapM_cons]
      cases choice? choice <;> cases later.mapM choice? <;> simp
  rw [choices?, List.mapM_cons, ← hlater]
  cases choice? first <;> cases later.mapM choice? <;> simp

theorem choices?_eq_none {choices : List Json} {choice : Json} (h : choice ∈ choices)
    (hchoice : choice? choice = none) : choices? choices = none := by
  rw [Option.eq_none_iff_forall_ne_some]
  intro content hsome
  cases choices with
  | nil => cases h
  | cons first later =>
    obtain ⟨hfirst, hlater⟩ := choices?_cons_eq_some_iff.1 hsome
    rcases List.mem_cons.1 h with rfl | hmem
    · rw [hchoice] at hfirst
      cases hfirst
    · exact hlater choice hmem hchoice

theorem document?_eq_none {value : Json} (h : Json.DocumentLacksName value) : document? value = none := by
  cases value with
  | object members =>
    rw [document?_object]
    refine within_member?_eq_none h fun _ hchoices => ?_
    obtain ⟨hmem, hchoice⟩ := hchoices
    exact choices?_eq_none hmem (choice?_eq_none hchoice)
  | _ => cases h

theorem choice?_of_document? {first : Json} {later : List Json} {content : Option Text}
    (hmem : (some ("choices" : Text), .array (first :: later)) ∈ members)
    (h : document? (.object members) = some content) : choice? first = some content := by
  rw [document?_object] at h
  rcases member?_of_mem hmem with hnone | hsome
  · rw [hnone] at h
    cases h
  · rw [hsome] at h
    exact (choices?_cons_eq_some_iff.1 h).1

/-! ### Replies -/

def Succeeds (status : Nat) : Prop := 200 ≤ status ∧ status < 300

instance (status : Nat) : Decidable (Succeeds status) := inferInstanceAs (Decidable (_ ∧ _))

theorem reply_of_succeeds {answer : Answer} (h : Succeeds answer.status) :
    answer.reply = content answer.text := by
  have hsuccess : answer.isSuccess = true := by
    rw [isSuccess, Bool.and_eq_true, decide_eq_true_eq, decide_eq_true_eq]
    exact h
  rw [reply, if_pos hsuccess]

theorem reply_of_not_succeeds {answer : Answer} (h : ¬ Succeeds answer.status) :
    answer.reply = .error (.status answer.status answer.text) := by
  have hsuccess : ¬ answer.isSuccess = true := by
    rw [isSuccess, Bool.and_eq_true, decide_eq_true_eq, decide_eq_true_eq]
    exact h
  rw [reply, if_neg hsuccess]

/-- Nothing is dropped but a byte order mark at the start. -/
theorem text_cases (answer : Answer) :
    answer.body = '\uFEFF' :: answer.text ∨
      answer.body = answer.text ∧ answer.body.head? ≠ some '\uFEFF' := by
  rw [text]
  split
  · rename_i rest hbody
    exact Or.inl hbody
  · rename_i hbody
    refine Or.inr ⟨rfl, ?_⟩
    intro hhead
    cases hcons : answer.body with
    | nil =>
      rw [hcons] at hhead
      cases hhead
    | cons c rest =>
      rw [hcons] at hhead
      obtain rfl : c = '\uFEFF' := Option.some.inj hhead
      exact hbody rest hcons

theorem read?_of_mark (t : Text) : Json.read? ('\uFEFF' :: t) = none := by
  rw [Json.read?, JsonToken.ofText?_mark]
  rfl

theorem text_of_read? {answer : Answer} {document : Json} (h : Json.read? answer.body = some document) :
    answer.text = answer.body := by
  rcases answer.text_cases with hmark | ⟨hbody, -⟩
  · rw [hmark, read?_of_mark] at h
    cases h
  · exact hbody.symm

theorem reply_of_read? {answer : Answer} {document : Json} (h : Succeeds answer.status)
    (hread : Json.read? answer.body = some document) :
    answer.reply = (document? document).elim (.error (.undecodable "the body is no chat completion")) .ok := by
  rw [reply_of_succeeds h, content, text_of_read? hread, hread, Option.bind_some]
  cases document? document <;> rfl

/-! ### Clients -/

/-- An answer with this status brings its body along: up to 199 it is no more than the announcement of
one, and 204 and 304 say that there is no body. -/
def BringsBody (status : Nat) : Prop := 200 ≤ status ∧ status ≠ 204 ∧ status ≠ 304

instance (status : Nat) : Decidable (BringsBody status) := inferInstanceAs (Decidable (_ ∧ _))

/-- A client that hands over the answers that come over HTTP. -/
structure IsHttpClient (client : Answer → Answer) : Prop where
  whole : ∀ answer, BringsBody answer.status → client answer = answer
  bare : ∀ answer, answer.status = 204 ∨ answer.status = 304 → client answer = ⟨answer.status, []⟩

def overHttp (answer : Answer) : Answer :=
  if BringsBody answer.status then answer else ⟨answer.status, []⟩

theorem isHttpClient_overHttp : IsHttpClient overHttp := by
  refine ⟨fun answer h => if_pos h, fun answer h => if_neg ?_⟩
  rintro ⟨-, h204, h304⟩
  exact h.elim h204 h304

/-- The reply is what an answer is taken for that comes through the client. -/
structure Yields (client : Answer → Answer) (answer : Answer) (reply : Reply) : Prop where
  /-- A status that is no success is reported with the body; a byte order mark at its start is dropped. -/
  failed : BringsBody answer.status → ¬ Succeeds answer.status →
    ∃ body, reply = .error (.status answer.status body) ∧
      (answer.body = '\uFEFF' :: body ∨ answer.body = body ∧ body.head? ≠ some '\uFEFF')
  notModified : answer.status = 304 → reply = .error (.status 304 [])
  /-- Without a body there is no completion. -/
  noContent : answer.status = 204 → ∃ detail, reply = .error (.undecodable detail)
  /-- Otherwise the status is not looked at again. -/
  succeeded : BringsBody answer.status → Succeeds answer.status →
    (∀ code body, reply ≠ .error (.status code body)) ∧
      ∀ status, BringsBody status → Succeeds status → (client ⟨status, answer.body⟩).reply = reply
  added : BringsBody answer.status → Succeeds answer.status → ∀ body document document',
    Json.read? answer.body = some document → Json.read? body = some document' →
      Json.AddsToDocument document document' → (client ⟨answer.status, body⟩).reply = reply
  unnamed : BringsBody answer.status → Succeeds answer.status → ∀ document,
    Json.read? answer.body = some document → Json.DocumentLacksName document →
      ∃ detail, reply = .error (.undecodable detail)
  /-- If the body can be read, the first choice has the content, and any body with this first choice that
  can be read has the same content. -/
  first : BringsBody answer.status → Succeeds answer.status → ∀ members first later content,
    Json.read? answer.body = some (.object members) →
    (some ("choices" : Text), .array (first :: later)) ∈ members → reply = .ok content →
      choice? first = some content ∧
      ∀ body members' others content', Json.read? body = some (.object members') →
        (some ("choices" : Text), .array (first :: others)) ∈ members' →
        (client ⟨answer.status, body⟩).reply = .ok content' → content' = content

theorem choice?_of_reply {answer : Answer} (h : Succeeds answer.status) {first : Json} {later : List Json}
    {content : Option Text} (hread : Json.read? answer.body = some (.object members))
    (hmem : (some ("choices" : Text), .array (first :: later)) ∈ members)
    (hreply : answer.reply = .ok content) : choice? first = some content := by
  rw [reply_of_read? h hread] at hreply
  cases hdocument : document? (.object members) with
  | none =>
    rw [hdocument] at hreply
    cases hreply
  | some found =>
    rw [hdocument] at hreply
    obtain rfl : found = content := Except.ok.inj hreply
    exact choice?_of_document? hmem hdocument

theorem yields_reply {client : Answer → Answer} (hclient : IsHttpClient client) (answer : Answer) :
    answer.Yields client (client answer).reply := by
  -- With a status that brings the body along, what is said of the client is said of the answer.
  have hwhole {status : Nat} (hbody : BringsBody status) (body : Text) :
      client ⟨status, body⟩ = ⟨status, body⟩ := hclient.whole ⟨status, body⟩ hbody
  refine ⟨?_, ?_, ?_, ?_, ?_, ?_, ?_⟩
  · intro hbody h
    rw [hclient.whole answer hbody]
    refine ⟨answer.text, reply_of_not_succeeds h, ?_⟩
    rcases answer.text_cases with hmark | ⟨heq, hhead⟩
    · exact Or.inl hmark
    · rw [heq] at hhead
      exact Or.inr ⟨heq, hhead⟩
  · intro h
    rw [hclient.bare answer (Or.inr h), h]
    rfl
  · intro h
    rw [hclient.bare answer (Or.inl h), h]
    exact ⟨"the body is no chat completion", by decide +kernel⟩
  · intro hbody h
    rw [hclient.whole answer hbody, reply_of_succeeds h]
    constructor
    · intro code body
      rw [content]
      cases (Json.read? answer.text).bind document? <;> exact nofun
    · intro status hbody' hstatus
      have hother : Succeeds (⟨status, answer.body⟩ : Answer).status := hstatus
      rw [hwhole hbody' answer.body]
      exact reply_of_succeeds hother
  · intro hbody h body document document' hread hread' hadds
    have hother : Succeeds (⟨answer.status, body⟩ : Answer).status := h
    rw [hwhole hbody body, hclient.whole answer hbody, reply_of_read? h hread,
      reply_of_read? hother hread', document?_adds hadds]
  · intro hbody h document hread hlacks
    rw [hclient.whole answer hbody, reply_of_read? h hread, document?_eq_none hlacks]
    exact ⟨_, rfl⟩
  · intro hbody h members first later content hread hmem hreply
    rw [hclient.whole answer hbody] at hreply
    have hfirst := choice?_of_reply h hread hmem hreply
    refine ⟨hfirst, ?_⟩
    intro body members' others content' hread' hmem' hreply'
    have hother : Succeeds (⟨answer.status, body⟩ : Answer).status := h
    rw [hwhole hbody body] at hreply'
    have hfirst' := choice?_of_reply hother hread' hmem' hreply'
    rw [hfirst] at hfirst'
    exact (Option.some.inj hfirst').symm

end Answer

/-! ### A request in a world -/

namespace World

/-- A request in the world `w` comes to `result`: one call is sent, which holds the messages of the
request, and what came back for it is the reply. -/
structure Completes (w : World) (config : ServiceConfig) (request : Request) (call : Call)
    (result : Reply × World) : Prop where
  world : result.2 = w.afterCalls [call]
  sent : result.2.sent = w.sent ++ [call]
  messages : call.payload.messages = request.messages
  /-- In the body of the call the messages are an array, each with its role and its content. -/
  body : ∃ array rest, call.payload.print =
      "\x7b\"model\":" ++ Json.quote config.model ++ ",\"messages\":" ++ array ++ rest ∧
    Json.read? array = some (.array (request.messages.map Message.json))
  reply : ((w.answers.headD echo) call).Yields w.client result.1

theorem completes {config : ServiceConfig} {request : Request} {url : Url} {w : World}
    (hurl : Url.read? config.endpoint = some url)
    (hkey : config.apiKey.all Call.canStandInHeader = true) (honline : w.isOnline = true)
    (hclient : Answer.IsHttpClient w.client) :
    ∃ call, w.Completes config request call ((config.complete host.send request).run w) := by
  have hcall : config.call request =
      .ok ⟨url, config.apiKey, ⟨config.model, request.messages, config.temperature⟩⟩ := by
    rw [ServiceConfig.call, hurl]
    exact if_pos hkey
  rw [run_complete, hcall]
  dsimp only
  rw [if_pos honline]
  exact ⟨_, rfl, rfl, rfl, ⟨_, _, Payload.print_eq _, Payload.read?_printMessages _⟩,
    Answer.yields_reply hclient _⟩

/-- The answer has members that nobody knows, and a second choice. -/
theorem completes_of_two_choices :
    let config : ServiceConfig := ⟨"k", "m", "http://[::1]/v1/", .one, 60000⟩
    let request : Request := ⟨"b", "only b", [⟨.user, "type A = \"x\";"⟩], "function b(): A \x7b\n\x7d"⟩
    let first : Text := "\x7b\"index\":0,\"message\":\x7b\"role\":\"assistant\",\"content\":\"a\"\x7d\x7d"
    let second : Text := "\x7b\"message\":null\x7d"
    let answer : Answer := ⟨201, "\x7b\"id\":7,\"choices\":[" ++ first ++ "," ++ second ++ "]\x7d"⟩
    let w : World := { answers := [fun _ => answer], client := Answer.overHttp }
    ∃ url, Url.read? config.endpoint = some url ∧ config.apiKey.all Call.canStandInHeader = true ∧
      w.isOnline = true ∧ Answer.IsHttpClient w.client ∧
      (∃ call, w.Completes config request call ((config.complete host.send request).run w)) ∧
      ((config.complete host.send request).run w).1 = .ok (some "a") := by
  intro config request first second answer w
  have hurl : Url.read? config.endpoint =
      some ⟨none, .address128 [0, 0, 0, 0, 0, 0, 0, 1], none, "/v1/chat/completions"⟩ := by
    decide +kernel
  exact ⟨_, hurl, rfl, rfl, Answer.isHttpClient_overHttp,
    completes hurl rfl rfl Answer.isHttpClient_overHttp, by decide +kernel⟩

/-- The byte order mark of a body is not reported, half of a surrogate pair as the name of one more
member makes a document unreadable, and with the statuses 204 and 304 no body comes through. -/
theorem not_reported_verbatim :
    let config : ServiceConfig := ⟨"k", "m", "http://[::1]/v1", .one, 60000⟩
    let request : Request := ⟨"b", "only b", [], "function b(): void \x7b\n\x7d"⟩
    let ask (status : Nat) (body : Text) : Reply :=
      let w : World := { answers := [fun _ => ⟨status, body⟩], client := Answer.overHttp }
      ((config.complete host.send request).run w).1
    let members : Text := "\"choices\":[\x7b\"message\":\x7b\"content\":\"a\"\x7d\x7d]\x7d"
    ask 500 "\uFEFFdown" = .error (.status 500 "down") ∧
      ask 500 "\uFEFFdown" ≠ .error (.status 500 "\uFEFFdown") ∧
      ask 200 ("\x7b" ++ members) = .ok (some "a") ∧
      ask 200 ("\x7b\"\\ud83d\":1," ++ members) ≠ .ok (some "a") ∧
      ask 204 ("\x7b" ++ members) ≠ .ok (some "a") ∧
      ask 304 "unchanged" ≠ .error (.status 304 "unchanged") := by
  intro config request ask members
  exact ⟨by decide +kernel, by decide +kernel, by decide +kernel, by decide +kernel, by decide +kernel,
    by decide +kernel⟩

end World

end StubCompiler
