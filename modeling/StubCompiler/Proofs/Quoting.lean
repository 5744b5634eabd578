import StubCompiler.Completion.Exchange

/-!
# JSON that is written

What the library writes as JSON is read back.  A text in quotation marks is one token, which stands for
the text whatever escapes it took, and the messages of a call are an array of objects in the body that
is sent.
-/

namespace StubCompiler

namespace JsonToken

/-! ### Strings -/

theorem stringBody_cons {c : Char} (hquote : c ≠ '\"') (hslash : c ≠ '\\') (hspace : ¬ c.toNat < 0x20)
    (t : Text) : stringBody (c :: t) = (stringBody t).map fun (units, rest) => (c.toNat :: units, rest) := by
  rw [stringBody]
  · simp [hslash, hspace]
  all_goals simp_all

theorem stringBody_slash {c meant : Char} (hc : c ≠ 'u') (h : escaped? c = some meant) (t : Text) :
    stringBody ('\\' :: c :: t) =
      (stringBody t).map fun (units, rest) => (meant.toNat :: units, rest) := by
  rw [stringBody, h]
  · cases stringBody t <;> rfl
  · simp [hc]

theorem unit?_control : ∀ n < 0x20, unit? '0' '0' (Json.hexDigit (n / 16)) (Json.hexDigit n) = some n := by
  decide

theorem stringBody_escape (c : Char) (t : Text) :
    stringBody (Json.escape c ++ t) =
      (stringBody t).map fun (units, rest) => (c.toNat :: units, rest) := by
  unfold Json.escape
  split
  case h_8 hquote hslash _ _ _ _ _ =>
    split
    · rename_i hc
      have hunit := unit?_control c.toNat hc
      show stringBody
        ('\\' :: 'u' :: '0' :: '0' :: Json.hexDigit (c.toNat / 16) :: Json.hexDigit c.toNat :: t) = _
      rw [stringBody, hunit]
      cases stringBody t <;> rfl
    · rename_i hc
      exact stringBody_cons hquote hslash hc t
  all_goals exact stringBody_slash (by decide) rfl t

theorem joinUnits_map_toNat (t : Text) : joinUnits (t.map Char.toNat) = some t := by
  induction t with
  | nil => rfl
  | cons c t ih =>
    have hc : ¬ (0xD800 ≤ c.toNat ∧ c.toNat < 0xE000) := by
      have hvalid := c.valid
      have hval : c.val.toNat = c.toNat := rfl
      simp only [UInt32.isValidChar, Nat.isValidChar] at hvalid
      omega
    cases t with
    | nil =>
      simp only [List.map_cons, List.map_nil, joinUnits, if_neg hc, Char.ofNat_toNat]
    | cons d t =>
      have hhigh : ¬ (0xD800 ≤ c.toNat ∧ c.toNat < 0xDC00) := by omega
      have hlow : ¬ (0xDC00 ≤ c.toNat ∧ c.toNat < 0xE000) := by omega
      rw [List.map_cons] at ih
      rw [List.map_cons, List.map_cons, joinUnits, if_neg hhigh, if_neg hlow, ih, Char.ofNat_toNat]
      rfl

theorem stringBody_quoted (t rest : Text) :
    stringBody (t.flatMap Json.escape ++ '\"' :: rest) = some (t.map Char.toNat, rest) := by
  induction t with
  | nil => rfl
  | cons c t ih =>
    rw [List.flatMap_cons, List.append_assoc, stringBody_escape, ih]
    rfl

/-! ### Tokens -/

theorem ofText?_cons {c : Char} {t rest : Text} {token : JsonToken} (hspace : isSpace c = false)
    (h : next? c t = some (token, rest)) : ofText? (c :: t) = (ofText? rest).map (token :: ·) := by
  rw [ofText?, hspace, if_neg Bool.false_ne_true]
  split
  · rename_i heq
    rw [h] at heq
    cases heq
  · rename_i heq
    rw [h] at heq
    cases heq
    rfl

/-- The text is read as `tokens`, whatever follows it. -/
def Spells (t : Text) (tokens : List JsonToken) : Prop :=
  ∀ rest, ofText? (t ++ rest) = (ofText? rest).map (tokens ++ ·)

theorem Spells.append {s t : Text} {first second : List JsonToken} (hs : Spells s first)
    (ht : Spells t second) : Spells (s ++ t) (first ++ second) := by
  intro rest
  rw [List.append_assoc, hs, ht, Option.map_map]
  simp only [Function.comp_def, List.append_assoc]

theorem Spells.mark {c : Char} {token : JsonToken} (hspace : isSpace c = false)
    (h : ∀ t, next? c t = some (token, t)) : Spells [c] [token] :=
  fun rest => ofText?_cons hspace (h rest)

theorem spells_openArray : Spells ['['] [.openArray] := .mark rfl fun _ => rfl

theorem spells_closeArray : Spells [']'] [.closeArray] := .mark rfl fun _ => rfl

theorem spells_openObject : Spells ['\x7b'] [.openObject] := .mark rfl fun _ => rfl

theorem spells_closeObject : Spells ['\x7d'] [.closeObject] := .mark rfl fun _ => rfl

theorem spells_comma : Spells [','] [.comma] := .mark rfl fun _ => rfl

theorem spells_colon : Spells [':'] [.colon] := .mark rfl fun _ => rfl

theorem spells_quote (t : Text) : Spells (Json.quote t) [.string (some t)] := by
  intro rest
  have hnext : next? '\"' (t.flatMap Json.escape ++ '\"' :: rest) = some (.string (some t), rest) := by
    rw [next?, stringBody_quoted, Option.map_some]
    dsimp only
    rw [joinUnits_map_toNat]
  have hquote : Json.quote t ++ rest = '\"' :: (t.flatMap Json.escape ++ '\"' :: rest) := by
    simp [Json.quote]
  rw [hquote]
  exact ofText?_cons rfl hnext

theorem spells_key (name : Text) :
    Spells (Json.quote name ++ [':']) [.string (some name), .colon] :=
  (spells_quote name).append spells_colon

theorem Spells.ofText?_eq {t : Text} {tokens : List JsonToken} (h : Spells t tokens) :
    ofText? t = some tokens := by
  have hall := h []
  rw [List.append_nil, ofText?] at hall
  simpa using hall

theorem Spells.read?_eq {t : Text} {tokens : List JsonToken} {value : Json} (h : Spells t tokens)
    (hfold : tokens.foldlM JsonState.next? (.value []) = some (.after value [])) :
    Json.read? t = some value := by
  have hread : Json.read? t = (ofText? t).bind fun tokens =>
    (tokens.foldlM JsonState.next? (.value [])).bind JsonState.result? := rfl
  rw [hread, h.ofText?_eq, Option.bind_some, hfold]
  rfl

end JsonToken

/-! ### Messages -/

namespace Message

def json (m : Message) : Json :=
  .object [(some "role", .string (some m.role.name)), (some "content", .string (some m.content))]

def tokens (m : Message) : List JsonToken :=
  [.openObject, .string (some "role"), .colon, .string (some m.role.name), .comma,
    .string (some "content"), .colon, .string (some m.content), .closeObject]

theorem spells_printMessage (m : Message) : JsonToken.Spells (Payload.printMessage m) m.tokens := by
  have hrole : JsonToken.Spells "\x7b\"role\":" [.openObject, .string (some "role"), .colon] :=
    JsonToken.spells_openObject.append (JsonToken.spells_key "role")
  have hcontent : JsonToken.Spells ",\"content\":" [.comma, .string (some "content"), .colon] :=
    JsonToken.spells_comma.append (JsonToken.spells_key "content")
  exact (((hrole.append (JsonToken.spells_quote _)).append hcontent).append
    (JsonToken.spells_quote _)).append JsonToken.spells_closeObject

theorem foldlM_tokens (m : Message) (frames : List JsonFrame) :
    m.tokens.foldlM JsonState.next? (.value frames) = some (.after m.json frames) := rfl

/-- The items of an array up to its end, when the items in `done` have been read. -/
theorem foldlM_items (m : Message) (ms : List Message) (done : List Json) (frames : List JsonFrame) :
    (List.intercalate [JsonToken.comma] ((m :: ms).map tokens) ++ [JsonToken.closeArray]).foldlM
        JsonState.next? (.value (.array done :: frames)) =
      some (.after (.array (done ++ (m :: ms).map json)) frames) := by
  induction ms generalizing m done with
  | nil =>
    rw [List.map_cons, List.map_nil, List.intercalate_singleton, List.foldlM_append, foldlM_tokens]
    rfl
  | cons next ms ih =>
    have hnext := ih next (done ++ [m.json])
    rw [List.map_cons, List.append_assoc done] at hnext
    rw [List.map_cons, List.map_cons, List.intercalate_cons_cons, List.append_assoc, List.append_assoc,
      List.foldlM_append, foldlM_tokens]
    exact hnext

theorem foldlM_array (ms : List Message) (frames : List JsonFrame) :
    (JsonToken.openArray :: (List.intercalate [JsonToken.comma] (ms.map tokens) ++
        [JsonToken.closeArray])).foldlM
        JsonState.next? (.value frames) =
      some (.after (.array (ms.map json)) frames) := by
  cases ms with
  | nil => rfl
  | cons m ms =>
    -- The first item begins with a brace, and is read in an array that holds nothing yet.
    have hfirst : ∃ tail, List.intercalate [JsonToken.comma] ((m :: ms).map tokens) = .openObject :: tail := by
      cases ms with
      | nil => exact ⟨_, rfl⟩
      | cons next ms => exact ⟨_, rfl⟩
    obtain ⟨tail, htail⟩ := hfirst
    have hitems := foldlM_items m ms [] frames
    rw [htail] at hitems ⊢
    exact hitems

theorem spells_messages (ms : List Message) :
    JsonToken.Spells (List.intercalate "," (ms.map Payload.printMessage))
      (List.intercalate [.comma] (ms.map tokens)) := by
  induction ms with
  | nil =>
    intro rest
    exact Option.map_id'.symm
  | cons m ms ih =>
    cases ms with
    | nil =>
      rw [List.map_cons, List.map_nil, List.intercalate_singleton, List.map_cons, List.map_nil,
        List.intercalate_singleton]
      exact spells_printMessage m
    | cons next ms =>
      rw [List.map_cons, List.map_cons, List.intercalate_cons_cons, List.map_cons, List.map_cons,
        List.intercalate_cons_cons]
      exact ((spells_printMessage m).append JsonToken.spells_comma).append ih

end Message

namespace Payload

def printMessages (p : Payload) : Text :=
  "[" ++ (List.intercalate "," (p.messages.map printMessage) : Text) ++ "]"

theorem print_eq (p : Payload) :
    p.print = "\x7b\"model\":" ++ Json.quote p.model ++ ",\"messages\":" ++ p.printMessages ++
      (",\"temperature\":" ++ printNumber p.temperature ++ ",\"n\":1\x7d") := by
  have hopen : (",\"messages\":[" : Text) = (",\"messages\":" : Text) ++ ("[" : Text) := rfl
  have hclose : ("],\"temperature\":" : Text) = ("]" : Text) ++ (",\"temperature\":" : Text) := rfl
  unfold print printMessages
  rw [hopen, hclose]
  simp only [List.append_assoc]

theorem read?_printMessages (p : Payload) :
    Json.read? p.printMessages = some (.array (p.messages.map Message.json)) := by
  have hspells := (JsonToken.spells_openArray.append (Message.spells_messages p.messages)).append
    JsonToken.spells_closeArray
  have hfold := Message.foldlM_array p.messages []
  rw [← List.singleton_append, ← List.append_assoc] at hfold
  exact hspells.read?_eq hfold

end Payload

end StubCompiler
