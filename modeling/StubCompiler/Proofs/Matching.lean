import StubCompiler.Proofs.Loop
import StubCompiler.Proofs.Outcome

/-!
# The matching of parentheses

A header can be read by byte positions: two searches, one from behind the keyword and one from the
keyword on, give the parenthesis that ends the name and the one that opens the argument list, and a loop
with a counter looks for the one that closes it.  A slice traps if its ends are out of order or are not
character boundaries, and so does the counter below zero.  None of this happens, and what is found is
what `Header.argumentList?` says.
-/

namespace StubCompiler

/-! ### Byte positions -/

namespace Text

def dropBytes? : Nat → Text → Option Text
  | 0, t => some t
  | _ + 1, [] => none
  | n + 1, c :: t => if c.utf8Size ≤ n + 1 then dropBytes? (n + 1 - c.utf8Size) t else none

def takeBytes? : Nat → Text → Option Text
  | 0, _ => some []
  | _ + 1, [] => none
  | n + 1, c :: t =>
    if c.utf8Size ≤ n + 1 then (takeBytes? (n + 1 - c.utf8Size) t).map (c :: ·) else none

def slice? (t : Text) (start stop : Nat) : Option Text :=
  if stop < start then none else (t.dropBytes? start).bind (takeBytes? (stop - start))

def find? (pattern t : Text) : Option Nat := (t.cut? pattern).map fun (before, _) => before.byteLength

def findChar? (mark : Char) (t : Text) : Option Nat :=
  (t.cutAt? mark).map fun (before, _) => before.byteLength

theorem dropBytes?_eq_some_iff {n : Nat} {t u : Text} :
    t.dropBytes? n = some u ↔ ∃ s, t = s ++ u ∧ s.byteLength = n := by
  induction n, t using dropBytes?.induct with
  | case1 t =>
    rw [dropBytes?, Option.some.injEq]
    constructor
    · rintro rfl
      exact ⟨[], rfl, rfl⟩
    · rintro ⟨s, rfl, hs⟩
      have hlength := length_le_byteLength s
      rw [List.length_eq_zero_iff.1 (by omega : s.length = 0), List.nil_append]
  | case2 n =>
    rw [dropBytes?]
    constructor
    · intro h
      cases h
    · rintro ⟨s, hnil, hs⟩
      rw [(List.append_eq_nil_iff.1 hnil.symm).1] at hs
      cases hs
  | case3 n c t hc ih =>
    rw [dropBytes?, if_pos hc, ih]
    clear ih
    constructor
    · rintro ⟨s, rfl, hs⟩
      have hlength : byteLength (c :: s) = n + 1 := by
        rw [byteLength_cons]
        omega
      exact ⟨c :: s, rfl, hlength⟩
    · rintro ⟨s, heq, hs⟩
      cases s with
      | nil => cases hs
      | cons d s =>
        cases heq
        rw [byteLength_cons] at hs
        have hlength : byteLength s = n + 1 - c.utf8Size := by omega
        exact ⟨s, rfl, hlength⟩
  | case4 n c t hc =>
    rw [dropBytes?, if_neg hc]
    constructor
    · intro h
      cases h
    · rintro ⟨s, heq, hs⟩
      cases s with
      | nil => cases hs
      | cons d s =>
        cases heq
        rw [byteLength_cons] at hs
        omega

theorem takeBytes?_byteLength (s t : Text) : (s ++ t).takeBytes? s.byteLength = some s := by
  induction s with
  | nil =>
    rw [byteLength_nil]
    cases t <;> rfl
  | cons c s ih =>
    have hc : 0 < c.utf8Size := Char.utf8Size_pos c
    obtain ⟨n, hn⟩ : ∃ n, c.utf8Size + byteLength s = n + 1 := ⟨c.utf8Size + byteLength s - 1, by omega⟩
    have hrest : n + 1 - c.utf8Size = byteLength s := by omega
    rw [byteLength_cons, List.cons_append, hn, takeBytes?, if_pos (by omega), hrest, ih]
    rfl

theorem dropBytes?_byteLength (s t : Text) : (s ++ t).dropBytes? s.byteLength = some t :=
  dropBytes?_eq_some_iff.2 ⟨s, rfl, rfl⟩

theorem slice?_byteLength (s t u : Text) :
    (s ++ (t ++ u)).slice? s.byteLength (s.byteLength + t.byteLength) = some t := by
  have hle : ¬ s.byteLength + t.byteLength < s.byteLength := by omega
  rw [slice?, if_neg hle, dropBytes?_byteLength, Option.bind_some, Nat.add_sub_cancel_left,
    takeBytes?_byteLength]

/-- A start of the text, not the empty one, in which as many parentheses are closed as are opened. -/
structure IsEvenStart (p t : Text) : Prop where
  start : p <+: t
  ne_nil : p ≠ []
  count_eq : p.count ')' = p.count '('

end Text

namespace Header

/-! ### The two searches -/

/-- The name and the position of the parenthesis that ends it. -/
def nameAt? (header : Text) : Option (Text × Nat) := do
  let start := (← header.find? keyword) + keyword.byteLength
  let rest ← header.dropBytes? start
  let length ← rest.findChar? '('
  let name ← rest.takeBytes? length
  if name.trim = [] then none else some (name.trim, start + length)

def openingAt? (header : Text) : Option Nat := do
  let start ← header.find? keyword
  let rest ← header.dropBytes? start
  let length ← rest.findChar? '('
  return start + length

theorem nameAt?_of_opens {header before between inner : Text} (h : Opens header before between inner)
    (hname : between.trim ≠ []) :
    nameAt? header = some (between.trim, (before ++ keyword ++ between).byteLength) := by
  obtain ⟨rest, hkey, hopen⟩ := opens_iff_cut.1 h
  have hheader : header = (before ++ keyword) ++ rest := (Text.cut?_eq_some_iff.1 hkey).1
  have hrest : rest = between ++ '(' :: inner := Text.eq_of_cutAt? hopen
  have hdrop : header.dropBytes? (before.byteLength + keyword.byteLength) = some rest := by
    rw [hheader, ← Text.byteLength_append]
    exact Text.dropBytes?_byteLength _ rest
  have htake : rest.takeBytes? between.byteLength = some between := by
    rw [hrest]
    exact Text.takeBytes?_byteLength between _
  simp only [nameAt?, Text.find?, Text.findChar?, hkey, hopen, hdrop, htake, Option.map_some,
    Option.bind_eq_bind, Option.bind_some, if_neg hname, Text.byteLength_append]

/-- The keyword has no parenthesis in it. -/
theorem cutAt?_keyword {rest between inner : Text} (h : rest.cutAt? '(' = some (between, inner)) :
    (keyword ++ rest).cutAt? '(' = some (keyword ++ between, inner) := by
  rw [Text.cutAt?_append_left (by decide), h]
  rfl

theorem openingAt?_of_opens {header before between inner : Text} (h : Opens header before between inner) :
    openingAt? header = some (before ++ keyword ++ between).byteLength := by
  obtain ⟨rest, hkey, hopen⟩ := opens_iff_cut.1 h
  have hheader : header = before ++ (keyword ++ rest) := by
    rw [(Text.cut?_eq_some_iff.1 hkey).1, List.append_assoc]
  have hdrop : header.dropBytes? before.byteLength = some (keyword ++ rest) := by
    rw [hheader]
    exact Text.dropBytes?_byteLength before _
  simp only [openingAt?, Text.find?, Text.findChar?, hkey, cutAt?_keyword hopen, hdrop, Option.map_some,
    Option.bind_eq_bind, Option.bind_some, Option.pure_def, Text.byteLength_append, Nat.add_assoc]

theorem argumentList?_of_opens {header before between inner : Text}
    (h : Opens header before between inner) :
    argumentList? header = (cutAtClose? 0 inner).map fun (list, after) =>
      ⟨before ++ keyword ++ between, list, after⟩ := by
  obtain ⟨rest, hkey, hopen⟩ := opens_iff_cut.1 h
  rw [argumentList?, hkey]
  simp only [Option.bind_eq_bind, Option.bind_some, cutAt?_keyword hopen]
  cases cutAtClose? 0 inner with
  | none => rfl
  | some parts => simp

/-! ### The loop -/

/-- The loop has `depth` parentheses open and stands `offset` bytes behind the place where it began. -/
structure Matcher where
  depth : Nat
  offset : Nat
  unread : Text
deriving DecidableEq, Repr

/-- One character more of the text that begins at `opening`.  The result is the list and the position of
the parenthesis that closes it. -/
def Matcher.turn (header : Text) (opening : Nat) (m : Matcher) : Turn Matcher (Option (Text × Nat)) :=
  match m.unread with
  | [] => .finish none
  | c :: unread =>
    let offset := m.offset + c.utf8Size
    if c = '(' then .next ⟨m.depth + 1, offset, unread⟩
    else if c = ')' then
      if m.depth = 0 then .trap
      else if m.depth - 1 = 0 then
        match header.slice? (opening + 1) (opening + m.offset) with
        | none => .trap
        | some list => .finish (some (list, opening + m.offset))
      else .next ⟨m.depth - 1, offset, unread⟩
    else .next ⟨m.depth, offset, unread⟩

/-- The loop has not read anything yet, or it has read `read` behind the first parenthesis and what it
still looks for is the parenthesis that closes the first one. -/
inductive Matcher.Follows (inner : Text) : Matcher → Prop where
  | first : Follows inner ⟨0, 0, '(' :: inner⟩
  | inside {depth : Nat} {read unread : Text} (eq : inner = read ++ unread)
      (cut : cutAtClose? 0 inner =
        (cutAtClose? depth unread).map fun parts => (read ++ parts.1, parts.2)) :
      Follows inner ⟨depth + 1, 1 + read.byteLength, unread⟩

/-- What the loop is to find in `inner`, the text behind the parenthesis at `opening`. -/
def closing (opening : Nat) (inner : Text) : Option (Text × Nat) :=
  (cutAtClose? 0 inner).map fun parts => (parts.1, opening + 1 + parts.1.byteLength)

namespace Matcher

variable {header inner read unread : Text} {opening depth offset : Nat}

theorem turn_open :
    turn header opening ⟨depth, offset, '(' :: unread⟩ = .next ⟨depth + 1, offset + 1, unread⟩ := rfl

theorem turn_close :
    turn header opening ⟨depth + 2, offset, ')' :: unread⟩ = .next ⟨depth + 1, offset + 1, unread⟩ := rfl

theorem turn_other {c : Char} (hopen : c ≠ '(') (hclose : c ≠ ')') :
    turn header opening ⟨depth, offset, c :: unread⟩ = .next ⟨depth, offset + c.utf8Size, unread⟩ := by
  simp only [turn, if_neg hopen, if_neg hclose]

theorem turn_last {list : Text} (h : header.slice? (opening + 1) (opening + offset) = some list) :
    turn header opening ⟨1, offset, ')' :: unread⟩ = .finish (some (list, opening + offset)) := by
  have hclose : ')' ≠ '(' := by decide
  simp only [turn, if_neg hclose, if_pos, h, Nat.sub_self, Nat.one_ne_zero, if_false]

theorem Follows.push {c : Char} (eq : inner = read ++ c :: unread)
    (cut : cutAtClose? 0 inner =
      (cutAtClose? depth unread).map fun parts => (read ++ c :: parts.1, parts.2)) :
    Follows inner ⟨depth + 1, 1 + read.byteLength + c.utf8Size, unread⟩ := by
  have hoffset : 1 + read.byteLength + c.utf8Size = 1 + (read ++ [c]).byteLength := by
    rw [Text.byteLength_append, Text.byteLength_cons, Text.byteLength_nil]
    omega
  rw [hoffset]
  refine .inside (by rw [eq, List.append_cons]) ?_
  rw [cut]
  simp only [List.append_assoc, List.singleton_append]

theorem Follows.depth_pos {m : Matcher} (h : Follows inner m) (hclose : m.unread.head? = some ')') :
    1 ≤ m.depth := by
  cases h with
  | first => cases hclose
  | inside => exact Nat.le_add_left 1 _

theorem slice?_list (start read after : Text) :
    (start ++ '(' :: (read ++ ')' :: after)).slice? (start.byteLength + 1)
      (start.byteLength + (1 + read.byteLength)) = some read := by
  have hparen : (start ++ ['(']).byteLength = start.byteLength + 1 := by
    rw [Text.byteLength_append]
    rfl
  have hslice := Text.slice?_byteLength (start ++ ['(']) read (')' :: after)
  rwa [hparen, Nat.add_assoc, ← List.append_cons] at hslice

/-- The step lemma of the loop. -/
theorem progresses (start inner : Text) :
    Turn.Progresses (turn (start ++ '(' :: inner) start.byteLength) (Follows inner)
      (fun m => m.unread.length) (closing start.byteLength inner) := by
  intro m hm
  cases hm with
  | first =>
    have hinside : Follows inner ⟨0 + 1, 1 + Text.byteLength [], inner⟩ := .inside rfl (by simp)
    exact Or.inr ⟨_, turn_open, hinside, Nat.lt_succ_self _⟩
  | @inside depth read unread eq cut =>
    cases unread with
    | nil =>
      have hnone : cutAtClose? 0 inner = none := by
        rw [cut]
        cases depth <;> rfl
      rw [closing, hnone]
      exact Or.inl rfl
    | cons c unread =>
      by_cases hopen : c = '('
      · subst hopen
        rw [cutAtClose?_open, Option.map_map] at cut
        exact Or.inr ⟨_, turn_open, .push eq cut, Nat.lt_succ_self _⟩
      · by_cases hclose : c = ')'
        · subst hclose
          cases depth with
          | zero =>
            have hfound : cutAtClose? 0 inner = some (read, unread) := by
              rw [cut, cutAtClose?, Option.map_some, List.append_nil]
            have hslice := slice?_list start read unread
            rw [← eq] at hslice
            rw [closing, hfound, Option.map_some, Nat.add_assoc]
            exact Or.inl (turn_last hslice)
          | succ depth =>
            rw [cutAtClose?, Option.map_map] at cut
            exact Or.inr ⟨_, turn_close, .push eq cut, Nat.lt_succ_self _⟩
        · rw [cutAtClose?_other hopen hclose, Option.map_map] at cut
          exact Or.inr ⟨_, turn_other hopen hclose, .push eq cut, Nat.lt_succ_self _⟩

end Matcher

/-! ### The shortest even start -/

theorem count_le_of_cutAtClose?_eq_none {depth : Nat} {t : Text} (h : cutAtClose? depth t = none)
    (n : Nat) : (t.take n).count ')' ≤ depth + (t.take n).count '(' := by
  induction t generalizing depth n with
  | nil => simp
  | cons c t ih =>
    cases n with
    | zero => simp
    | succ n =>
      rw [List.take_succ_cons, List.count_cons, List.count_cons]
      by_cases hopen : c = '('
      · subst hopen
        rw [cutAtClose?_open, Option.map_eq_none_iff] at h
        have hrest := ih h n
        simp
        omega
      · by_cases hclose : c = ')'
        · subst hclose
          cases depth with
          | zero => cases h
          | succ depth =>
            rw [cutAtClose?, Option.map_eq_none_iff] at h
            have hrest := ih h n
            simp
            omega
        · rw [cutAtClose?_other hopen hclose, Option.map_eq_none_iff] at h
          simpa [hopen, hclose] using ih h n

theorem isEvenStart_of_isBalanced {list : Text} (h : list.IsBalanced) (after : Text) :
    Text.IsEvenStart ('(' :: (list ++ [')'])) ('(' :: (list ++ ')' :: after)) := by
  have hcount := h.count_eq
  refine ⟨⟨after, by simp⟩, by simp, ?_⟩
  simp
  omega

/-- No even start ends inside a balanced list. -/
theorem length_le_of_isEvenStart {list after p : Text} (h : list.IsBalanced)
    (hp : Text.IsEvenStart p ('(' :: (list ++ ')' :: after))) : list.length + 2 ≤ p.length := by
  obtain ⟨hstart, hne, hcount⟩ := hp
  rcases List.prefix_cons_iff.1 hstart with hnil | ⟨q, rfl, hq⟩
  · exact absurd hnil hne
  · by_contra hlt
    have hle : q.length ≤ list.length := by
      rw [List.length_cons] at hlt
      omega
    have hq' : q = list.take q.length := by
      rw [List.prefix_iff_eq_take] at hq
      rwa [List.take_append_of_le_length hle] at hq
    have hbalanced := h.count_le q.length
    rw [← hq'] at hbalanced
    simp at hcount
    omega

theorem exists_cutAtClose?_iff {inner : Text} :
    (∃ parts, cutAtClose? 0 inner = some parts) ↔ ∃ p, Text.IsEvenStart p ('(' :: inner) := by
  constructor
  · rintro ⟨⟨list, after⟩, hcut⟩
    obtain ⟨rfl, hlist⟩ := cutAtClose?_eq_some_iff.1 hcut
    exact ⟨_, isEvenStart_of_isBalanced hlist after⟩
  · rintro ⟨p, hstart, hne, hcount⟩
    rcases List.prefix_cons_iff.1 hstart with hnil | ⟨q, rfl, hq⟩
    · exact absurd hnil hne
    · cases hcut : cutAtClose? 0 inner with
      | some parts => exact ⟨parts, rfl⟩
      | none =>
        have hle := count_le_of_cutAtClose?_eq_none hcut q.length
        rw [← List.prefix_iff_eq_take.1 hq] at hle
        simp at hcount
        omega

/-! ### The parts of a header -/

namespace ArgumentList

def text (a : ArgumentList) : Text := a.before ++ '(' :: (a.list ++ ')' :: a.after)

theorem slice?_text (a : ArgumentList) :
    a.text.slice? (a.before.byteLength + 1) a.closePosition = some a.list := by
  have hslice := Matcher.slice?_list a.before a.list a.after
  rwa [← Nat.add_assoc] at hslice

theorem dropBytes?_text (a : ArgumentList) : a.text.dropBytes? a.closePosition = some (')' :: a.after) := by
  rw [Text.dropBytes?_eq_some_iff]
  refine ⟨a.before ++ '(' :: a.list, ?_, ?_⟩
  · rw [text, List.append_assoc, List.cons_append]
  · rw [closePosition, Text.byteLength_append, Nat.add_assoc]
    rfl

/-- The list and its parentheses are the shortest even start. -/
theorem exists_shortest {a : ArgumentList} (h : a.list.IsBalanced) :
    ∃ p, Text.IsEvenStart p ('(' :: (a.list ++ ')' :: a.after)) ∧
      (∀ q, Text.IsEvenStart q ('(' :: (a.list ++ ')' :: a.after)) → p.length ≤ q.length) ∧
      p = '(' :: (a.list ++ [')']) ∧
      a.closePosition = a.before.byteLength + Text.byteLength p.dropLast := by
  refine ⟨_, isEvenStart_of_isBalanced h a.after, ?_, rfl, ?_⟩
  · intro q hq
    have hle := length_le_of_isEvenStart h hq
    rw [List.length_cons, List.length_append, List.length_singleton]
    omega
  · have hclose : ('(' :: (a.list ++ [')'])).dropLast = '(' :: a.list := by
      rw [← List.cons_append, List.dropLast_concat]
    rw [hclose, closePosition, Text.byteLength_cons, Nat.add_assoc]
    rfl

end ArgumentList

theorem text_of_argumentList? {header before between inner : Text}
    (h : Opens header before between inner) {a : ArgumentList} (ha : argumentList? header = some a) :
    header = a.text ∧ before ++ keyword ++ between = a.before ∧ inner = a.list ++ ')' :: a.after ∧
      a.list.IsBalanced := by
  rw [argumentList?_of_opens h, Option.map_eq_some_iff] at ha
  obtain ⟨⟨list, after⟩, hcut, rfl⟩ := ha
  obtain ⟨rfl, hlist⟩ := cutAtClose?_eq_some_iff.1 hcut
  refine ⟨?_, rfl, rfl, hlist⟩
  rw [h.eq, ArgumentList.text, List.append_assoc _ between]

/-! ### The header as a whole -/

/-- The reading of `header` by byte positions, where `name` is what stands before the parenthesis at
`opening` and `tail` is the text from there on. -/
structure MatchesAt (header name : Text) (opening : Nat) (tail : Text) : Prop where
  name_eq : nameAt? header = some (name, opening)
  /-- Both searches find the same parenthesis. -/
  opening_eq : openingAt? header = some opening
  tail_eq : header.dropBytes? opening = some tail
  head_eq : tail.head? = some '('
  depth : ∀ m, Turn.Reaches (Matcher.turn header opening) ⟨0, 0, tail⟩ m →
    Matcher.turn header opening m ≠ .trap ∧ (m.unread.head? = some ')' → 1 ≤ m.depth)
  ends : Turn.Ends (Matcher.turn header opening) ⟨0, 0, tail⟩
    ((argumentList? header).map fun a => (a.list, a.closePosition))
  found_iff : (∃ a, argumentList? header = some a) ↔ ∃ p, Text.IsEvenStart p tail
  /-- What is found is bounded by the shortest even start, -/
  shortest : ∀ a, argumentList? header = some a → ∃ p, Text.IsEvenStart p tail ∧
    (∀ q, Text.IsEvenStart q tail → p.length ≤ q.length) ∧
    p = '(' :: (a.list ++ [')']) ∧ a.closePosition = opening + Text.byteLength p.dropLast
  /-- and both slices are on character boundaries. -/
  slices : ∀ a, argumentList? header = some a → a.list.IsBalanced ∧
    header.slice? (opening + 1) a.closePosition = some a.list ∧
    header.dropBytes? a.closePosition = some (')' :: a.after)

/-- The parentheses of a header with a name are matched exactly. -/
theorem matchesAt_of_name? {header name : Text} (h : name? header = some name) :
    ∃ opening tail, MatchesAt header name opening tail := by
  obtain ⟨before, between, inner, hopens, rfl, hne⟩ := name?_eq_some_iff.1 h
  have hlist := argumentList?_of_opens hopens
  have hheader : header = (before ++ keyword ++ between) ++ '(' :: inner := by
    rw [hopens.eq, List.append_assoc _ between]
  have hprogress := Matcher.progresses (before ++ keyword ++ between) inner
  rw [← hheader] at hprogress
  have hfirst : Matcher.Follows inner ⟨0, 0, '(' :: inner⟩ := .first
  have hresult : (argumentList? header).map (fun a => (a.list, a.closePosition)) =
      closing (before ++ keyword ++ between).byteLength inner := by
    rw [hlist, closing, Option.map_map]
    rfl
  refine ⟨(before ++ keyword ++ between).byteLength, '(' :: inner, nameAt?_of_opens hopens hne,
    openingAt?_of_opens hopens, ?_, rfl, ?_, ?_, ?_, ?_, ?_⟩
  · rw [hheader]
    exact Text.dropBytes?_byteLength _ _
  · intro m hm
    have hfollows := hprogress.invariant hfirst hm
    exact ⟨hprogress.ne_trap hfollows, hfollows.depth_pos⟩
  · rw [hresult]
    exact hprogress.ends hfirst
  · rw [← exists_cutAtClose?_iff, hlist]
    simp
  · intro a ha
    obtain ⟨-, hbefore, hinner, hbalanced⟩ := text_of_argumentList? hopens ha
    rw [hbefore, hinner]
    exact ArgumentList.exists_shortest hbalanced
  · intro a ha
    obtain ⟨htext, hbefore, -, hbalanced⟩ := text_of_argumentList? hopens ha
    rw [hbefore, htext]
    exact ⟨hbalanced, a.slice?_text, a.dropBytes?_text⟩

/-- The parentheses of the type are closed before the list is. -/
theorem matchesAt_of_nested_parentheses :
    let header : Text := "pinned function größe (f: (x: A) => B, ü: C): D \x7b"
    name? header = some "größe" ∧ (∃ opening tail, MatchesAt header "größe" opening tail) ∧
      nameAt? header = some (("größe" : Text), 24) ∧
      (argumentList? header).map (·.list) = some "f: (x: A) => B, ü: C" := by
  intro header
  have hname : name? header = some "größe" := by decide +kernel
  exact ⟨hname, matchesAt_of_name? hname, by decide +kernel, by decide +kernel⟩

end Header

end StubCompiler
