import StubCompiler.Proofs.Concatenation

/-!
# Layout

Blanks at either end of a line mean nothing: neither indentation nor carriage returns change what a
source says.  Two sources with the same lines up to such blanks both succeed or both fail.  They declare
the same constructs, in which only comments and type definitions show the layout, or have the same errors
on the same lines.
-/

namespace StubCompiler

/-! ### Texts with blanks around them -/

namespace Text

/-- The text `t` is `s` with blanks at either end. -/
def IsPadded (s t : Text) : Prop :=
  ∃ a b : Text, a.isBlankText = true ∧ b.isBlankText = true ∧ t = a ++ s ++ b

/-- The texts are the same up to the blanks at either end. -/
def Alike (t u : Text) : Prop := ∃ s, IsPadded s t ∧ IsPadded s u

/-- The texts have the same lines, each up to the blanks at either end. -/
def LinesAlike (t u : Text) : Prop := List.Forall₂ Alike t.lines u.lines

theorem IsPadded.trim_eq {s t : Text} (h : IsPadded s t) : t.trim = s.trim := by
  obtain ⟨a, b, ha, hb, rfl⟩ := h
  rw [trim_append_right hb, trim_append_left ha]

theorem isPadded_trim (t : Text) : IsPadded t.trim t := by
  refine ⟨t.takeWhile isBlank, ((t.dropWhile isBlank).reverse.takeWhile isBlank).reverse, ?_, ?_, ?_⟩
  · exact List.all_takeWhile
  · rw [isBlankText, List.all_reverse]
    exact List.all_takeWhile
  · rw [trim, trimEnd, dropEnd, List.append_assoc, ← List.reverse_append, List.takeWhile_append_dropWhile,
      List.reverse_reverse, List.takeWhile_append_dropWhile]

theorem alike_iff {t u : Text} : t.Alike u ↔ t.trim = u.trim := by
  constructor
  · rintro ⟨s, ht, hu⟩
    rw [ht.trim_eq, hu.trim_eq]
  · intro h
    have hu := isPadded_trim u
    rw [← h] at hu
    exact ⟨t.trim, isPadded_trim t, hu⟩

instance (t u : Text) : Decidable (t.Alike u) := decidable_of_iff _ alike_iff.symm

instance (t u : Text) : Decidable (t.LinesAlike u) :=
  inferInstanceAs (Decidable (List.Forall₂ Alike t.lines u.lines))

/- What is looked for in a line has a character that is not blank.  So it stands where it stood before
the blanks were put around the line. -/

theorem exists_of_append_eq_left {c : Char} {t w x y : Text} (hc : c ∉ w) (h : t ++ w = x ++ c :: y) :
    ∃ z, t = x ++ c :: z ∧ y = z ++ w := by
  rcases List.append_eq_append_iff.1 h with ⟨z, -, hw⟩ | ⟨z, ht, hy⟩
  · exact absurd (by simp [hw]) hc
  · cases z with
    | nil =>
      have hmem : c ∈ w := by
        rw [← List.nil_append w, ← hy]
        exact List.mem_cons_self
      exact absurd hmem hc
    | cons d z =>
      rw [List.cons_append, List.cons.injEq] at hy
      obtain ⟨rfl, rfl⟩ := hy
      exact ⟨z, ht, rfl⟩

theorem exists_of_append_eq_right {c : Char} {t w x y : Text} (hc : c ∉ w) (h : w ++ t = x ++ c :: y) :
    ∃ z, t = z ++ c :: y ∧ x = w ++ z := by
  rcases List.append_eq_append_iff.1 h with ⟨z, hx, ht⟩ | ⟨z, hw, ht⟩
  · exact ⟨z, ht, hx⟩
  · cases z with
    | nil =>
      rw [List.append_nil] at hw
      exact ⟨[], ht.symm, by rw [hw, List.append_nil]⟩
    | cons d z =>
      rw [List.cons_append, List.cons.injEq] at ht
      obtain ⟨rfl, -⟩ := ht
      exact absurd (by simp [hw]) hc

end Text

/-! ### Headers -/

namespace Header

open Text

theorem Opens.append_left {t before name inner w : Text} (hw : w.isBlankText = true) :
    (∃ before', before = w ++ before' ∧ Opens t before' name inner) ↔
      Opens (w ++ t) before name inner := by
  -- The keyword starts with a letter.
  obtain ⟨tail, hkey⟩ : ∃ tail, keyword = 'f' :: tail := ⟨keyword.tail, rfl⟩
  have hletter : 'f' ∉ w := not_mem_of_isBlankText (by decide) hw
  have hfind : ∀ {x y : Text}, w ++ t = x ++ keyword ++ y → ∃ z, t = z ++ keyword ++ y ∧ x = w ++ z := by
    intro x y h
    rw [hkey, List.append_assoc, List.cons_append] at h
    obtain ⟨z, ht, hx⟩ := exists_of_append_eq_right hletter h
    refine ⟨z, ?_, hx⟩
    rw [hkey, List.append_assoc, List.cons_append]
    exact ht
  constructor
  · rintro ⟨before', rfl, heq, hfirst, hmem⟩
    refine ⟨by simp [heq], ?_, hmem⟩
    intro u v huv
    obtain ⟨z, ht, rfl⟩ := hfind huv
    simpa using hfirst z v ht
  · rintro ⟨heq, hfirst, hmem⟩
    obtain ⟨z, ht, rfl⟩ := hfind heq
    refine ⟨z, rfl, ht, ?_, hmem⟩
    intro u v huv
    have hle := hfirst (w ++ u) v (by rw [huv]; simp)
    simpa using hle

theorem Opens.append_right {t before name inner w : Text} (hw : w.isBlankText = true) :
    (∃ inner', inner = inner' ++ w ∧ Opens t before name inner') ↔
      Opens (t ++ w) before name inner := by
  have hopen : '(' ∉ w := not_mem_of_isBlankText (by decide) hw
  constructor
  · rintro ⟨inner', rfl, heq, hfirst, hmem⟩
    refine ⟨by simp [heq], ?_, hmem⟩
    intro u v huv
    by_contra hlt
    -- An earlier keyword would end before the blanks, so it would stand in `t`.
    have hlength : (u ++ keyword).length ≤ t.length := by
      have hown := congrArg List.length heq
      simp only [List.length_append, List.length_cons] at hown ⊢
      omega
    obtain ⟨z, hz⟩ : u ++ keyword <+: t :=
      List.prefix_of_prefix_length_le ⟨v, huv.symm⟩ (List.prefix_append t w) hlength
    exact hlt (hfirst u z hz.symm)
  · rintro ⟨heq, hfirst, hmem⟩
    rw [← List.append_assoc] at heq
    obtain ⟨z, ht, rfl⟩ := exists_of_append_eq_left hopen heq
    refine ⟨z, rfl, by rw [ht, List.append_assoc], ?_, hmem⟩
    intro u v huv
    exact hfirst u (v ++ w) (by rw [huv]; simp)

/-- Blanks around a header end up before the keyword and behind the arguments. -/
theorem opens_pad_iff {s a b before name inner : Text} (ha : a.isBlankText = true)
    (hb : b.isBlankText = true) :
    Opens (a ++ s ++ b) before name inner ↔
      ∃ before' inner', before = a ++ before' ∧ inner = inner' ++ b ∧ Opens s before' name inner' := by
  rw [← Opens.append_right hb]
  constructor
  · rintro ⟨inner', rfl, h⟩
    obtain ⟨before', rfl, h'⟩ := (Opens.append_left ha).2 h
    exact ⟨before', inner', rfl, rfl, h'⟩
  · rintro ⟨before', inner', rfl, rfl, h⟩
    exact ⟨inner', rfl, (Opens.append_left ha).1 ⟨before', rfl, h⟩⟩

theorem name?_eq_of_isPadded {s t : Text} (h : IsPadded s t) : name? t = name? s := by
  obtain ⟨a, b, ha, hb, rfl⟩ := h
  ext name
  rw [name?_eq_some_iff, name?_eq_some_iff]
  constructor
  · rintro ⟨before, between, inner, hopens, hname⟩
    obtain ⟨before', inner', -, -, hown⟩ := (opens_pad_iff ha hb).1 hopens
    exact ⟨before', between, inner', hown, hname⟩
  · rintro ⟨before, between, inner, hopens, hname⟩
    exact ⟨_, between, _, (opens_pad_iff ha hb).2 ⟨before, inner, rfl, rfl, hopens⟩, hname⟩

theorem argumentList?_pad {s a b : Text} (ha : a.isBlankText = true) (hb : b.isBlankText = true) :
    argumentList? (a ++ s ++ b) =
      (argumentList? s).map fun l => ⟨a ++ l.before, l.list, l.after ++ b⟩ := by
  have hclose : ')' ∉ b := not_mem_of_isBlankText (by decide) hb
  ext l
  rw [Option.map_eq_some_iff, argumentList?_eq_some_iff]
  constructor
  · rintro ⟨before, name, hopens, hbalanced, hbefore⟩
    obtain ⟨before', inner', rfl, hinner, hown⟩ := (opens_pad_iff ha hb).1 hopens
    obtain ⟨after, rfl, hafter⟩ := exists_of_append_eq_left hclose hinner.symm
    refine ⟨⟨before' ++ keyword ++ name, l.list, after⟩, ?_, ?_⟩
    · exact argumentList?_eq_some_iff.2 ⟨before', name, hown, hbalanced, rfl⟩
    · cases l
      simp_all
  · rintro ⟨l, hlist, rfl⟩
    obtain ⟨before, name, hopens, hbalanced, hbefore⟩ := argumentList?_eq_some_iff.1 hlist
    refine ⟨a ++ before, name, ?_, hbalanced, by simp [hbefore]⟩
    exact (opens_pad_iff ha hb).2 ⟨before, _, rfl, by simp, hopens⟩

/-- The type that stands behind the arguments, with the text behind its brace. -/
theorem declaredType_pad {after b : Text} (hb : b.isBlankText = true) :
    (List.isPrefixOf? ": " (after ++ b)).bind (cutLast? " \x7b") =
      ((List.isPrefixOf? ": " after).bind (cutLast? " \x7b")).map fun (type, rest) => (type, rest ++ b) := by
  have hbrace : '\x7b' ∉ b := not_mem_of_isBlankText (by decide) hb
  have hfind : ∀ {t x y : Text}, t ++ b = x ++ " \x7b" ++ y → ∃ z, t = x ++ " \x7b" ++ z ∧ y = z ++ b := by
    intro t x y h
    have hmark : x ++ " \x7b" ++ y = (x ++ " ") ++ '\x7b' :: y := by simp
    rw [hmark] at h
    obtain ⟨z, ht, hy⟩ := exists_of_append_eq_left hbrace h
    exact ⟨z, by simp [ht], hy⟩
  ext ⟨type, rest⟩
  simp only [Option.bind_eq_some_iff, Option.map_eq_some_iff,
    List.isPrefixOf?_eq_some_iff_append_eq, cutLast?_eq_some_iff, Prod.exists, Prod.mk.injEq]
  constructor
  · rintro ⟨r, hafter, hr, hlast⟩
    have hwhole : after ++ b = (": " ++ type) ++ " \x7b" ++ rest := by rw [← hafter, hr]; simp
    obtain ⟨z, hz, rfl⟩ := hfind hwhole
    refine ⟨type, z, ⟨type ++ " \x7b" ++ z, by simp [hz], rfl, ?_⟩, rfl, rfl⟩
    intro u v huv
    exact hlast u (v ++ b) (by rw [hr]; simpa using congrArg (· ++ b) huv)
  · rintro ⟨_, z, ⟨r, rfl, hr, hlast⟩, rfl, rfl⟩
    refine ⟨r ++ b, by simp, by simp [hr], ?_⟩
    intro u v huv
    obtain ⟨w, hw, -⟩ := hfind huv
    exact hlast u w hw

theorem returnType_pad {after b : Text} (hb : b.isBlankText = true) :
    returnType (after ++ b) = returnType after := by
  rw [returnType, returnType, declaredType_pad hb]
  cases (List.isPrefixOf? ": " after).bind (cutLast? " \x7b") with
  | none => rfl
  | some parts => rfl

theorem signature_eq_of_isPadded {s t : Text} (h : IsPadded s t) :
    ((argumentList? t).map fun l => (l.list, returnType l.after)) =
      (argumentList? s).map fun l => (l.list, returnType l.after) := by
  obtain ⟨a, b, ha, hb, rfl⟩ := h
  rw [argumentList?_pad ha hb, Option.map_map]
  refine congrArg (fun f => Option.map f (argumentList? s)) ?_
  funext l
  simp only [Function.comp_apply, returnType_pad hb]

end Header

/-! ### What is the same in every layout -/

/-- Both fail with related errors, or both succeed with related values. -/
inductive SameOutcome {ε α : Type} (E : ε → ε → Prop) (A : α → α → Prop) :
    Except ε α → Except ε α → Prop where
  | error {e f : ε} (related : E e f) : SameOutcome E A (.error e) (.error f)
  | ok {a b : α} (related : A a b) : SameOutcome E A (.ok a) (.ok b)

structure Line.Alike (l m : Line) : Prop where
  number : l.number = m.number
  text : l.text.Alike m.text
  single : '\n' ∉ l.text ∧ '\n' ∉ m.text

/-- The same complaint about the same line. -/
structure Fault.Alike (f g : Fault) : Prop where
  complaint : f.complaint = g.complaint
  line : f.line.Alike g.line

/-- The same error about the same line of the source; the cause in the last output is the same. -/
inductive SyntaxError.Alike : SyntaxError → SyntaxError → Prop where
  | inSource {f g : Fault} (fault : f.Alike g) : Alike (.inSource f) (.inSource g)
  | pinning {name : Text} {l m : Line} {cause : Fault} (line : l.Alike m) :
      Alike (.pinning name l cause) (.pinning name m cause)

/-- Only the comments differ, and these in their layout. -/
structure Stub.Alike (s t : Stub) : Prop where
  name : s.name = t.name
  arguments : s.arguments = t.arguments
  returnType : s.returnType = t.returnType
  comment : s.comment.LinesAlike t.comment

/-- Only comments and type definitions differ, and these in their layout. -/
inductive Construct.Alike : Construct → Construct → Prop where
  | function {s t : Stub} (stub : s.Alike t) : Alike (.function s) (.function t)
  | pinned {s t : Stub} (stub : s.Alike t) (body : Text) : Alike (.pinned s body) (.pinned t body)
  | typeDefinition {b c : Text} (body : b.LinesAlike c) : Alike (.typeDefinition b) (.typeDefinition c)
  | union (name : Text) (tags : List Text) : Alike (.union name tags) (.union name tags)
  | exportList (names : List Text) : Alike (.exportList names) (.exportList names)

structure SourceBlock.Alike (b c : SourceBlock) : Prop where
  header : b.header.Alike c.header
  lines : List.Forall₂ Line.Alike b.lines c.lines

/-! ### Lines -/

theorem Line.Alike.kind_eq {l m : Line} (h : l.Alike m) : l.kind = m.kind := by
  rw [kind, kind, Text.alike_iff.1 h.text]

theorem Line.Alike.closes_eq {l m : Line} (h : l.Alike m) (d : Delimiter) : d.closes l = d.closes m := by
  cases d with
  | brace => rw [Delimiter.closes, Delimiter.closes, h.kind_eq]
  | terminator =>
    rw [Delimiter.closes, Delimiter.closes, isTerminator, isTerminator, Text.alike_iff.1 h.text]

theorem Line.alike_ofSource {source source' : Text} (h : source.LinesAlike source') :
    List.Forall₂ Line.Alike (ofSource source) (ofSource source') := by
  -- The numbers run in step; where the lines start does not matter.
  have hrun : ∀ {ts us : List Text} (n i j : Nat), List.Forall₂ Text.Alike ts us →
      (∀ t ∈ ts, '\n' ∉ t) → (∀ u ∈ us, '\n' ∉ u) →
      List.Forall₂ Line.Alike (consecutive n i ts) (consecutive n j us) := by
    intro ts us n i j hall
    induction hall generalizing n i j with
    | nil => exact fun _ _ => .nil
    | cons htu _ ih =>
      intro hts hus
      refine .cons ⟨rfl, htu, hts _ (by simp), hus _ (by simp)⟩ (ih _ _ _ ?_ ?_)
      · exact fun t ht => hts t (List.mem_cons_of_mem _ ht)
      · exact fun u hu => hus u (List.mem_cons_of_mem _ hu)
  exact hrun 1 0 0 h (fun t ht => Text.not_mem_of_mem_lines ht) fun u hu => Text.not_mem_of_mem_lines hu

theorem Line.linesAlike_unlines {xs ys : List Line} (h : List.Forall₂ Line.Alike xs ys) :
    (unlines xs).LinesAlike (unlines ys) := by
  cases h with
  | nil => exact .cons (Text.alike_iff.2 rfl) .nil
  | @cons x y xs ys hxy hrest =>
    have hall : List.Forall₂ Line.Alike (x :: xs) (y :: ys) := .cons hxy hrest
    have hx : ∀ l ∈ x :: xs, '\n' ∉ l.text := by
      intro l hl
      obtain ⟨m, -, hlm⟩ := exists_of_forall₂_of_mem hall.flip hl
      exact hlm.single.1
    have hy : ∀ m ∈ y :: ys, '\n' ∉ m.text := by
      intro m hm
      obtain ⟨l, -, hlm⟩ := exists_of_forall₂_of_mem hall hm
      exact hlm.single.2
    rw [Text.LinesAlike, unlines, unlines, Text.lines_unlines_map hx (List.cons_ne_nil x xs),
      Text.lines_unlines_map hy (List.cons_ne_nil y ys), List.forall₂_map_left_iff,
      List.forall₂_map_right_iff]
    exact hall.imp fun _ _ hlm => hlm.text

/-! ### Blocks -/

theorem exists_of_forall₂_append {α β : Type} {R : α → β → Prop} {xs ys : List α} {zs : List β}
    (h : List.Forall₂ R (xs ++ ys) zs) :
    ∃ us vs, zs = us ++ vs ∧ List.Forall₂ R xs us ∧ List.Forall₂ R ys vs := by
  refine ⟨zs.take xs.length, zs.drop xs.length, (List.take_append_drop _ _).symm, ?_, ?_⟩
  · simpa using List.forall₂_take xs.length h
  · simpa using List.forall₂_drop xs.length h

theorem Delimiter.Closed.alike {d : Delimiter} {xs ys : List Line} (h : d.Closed xs)
    (hxy : List.Forall₂ Line.Alike xs ys) : d.Closed ys :=
  h.of_map_closes (map_eq_map_of_forall₂ hxy fun hlm => hlm.closes_eq d)

/-- The scan finds the same blocks, and stops at the same line if it stops. -/
theorem Scan.alike {lines lines' : List Line} {blocks : List SourceBlock} {stop : Option Fault}
    (h : Scan lines blocks stop) (hlines : List.Forall₂ Line.Alike lines lines') :
    ∃ blocks' stop', Scan lines' blocks' stop' ∧ List.Forall₂ SourceBlock.Alike blocks blocks' ∧
      Option.Rel Fault.Alike stop stop' := by
  induction h generalizing lines' with
  | done =>
    cases hlines
    exact ⟨[], none, .done, .nil, .none⟩
  | skip extent _ ih =>
    cases hlines with
    | cons hline hrest =>
      obtain ⟨blocks', stop', hscan, hblocks, hstop⟩ := ih hrest
      exact ⟨blocks', stop', .skip (by rw [← hline.kind_eq, extent]) hscan, hblocks, hstop⟩
  | line extent _ ih =>
    cases hlines with
    | cons hline hrest =>
      obtain ⟨blocks', stop', hscan, hblocks, hstop⟩ := ih hrest
      have hblock : SourceBlock.Alike ⟨_, [_]⟩ ⟨_, [_]⟩ := ⟨hline, .cons hline .nil⟩
      exact ⟨_, stop', .line (by rw [← hline.kind_eq, extent]) hscan, .cons hblock hblocks, hstop⟩
  | block extent eq closed _ ih =>
    -- The lines are cut in the same place, behind as many lines as the block has.
    have hcut := hlines
    rw [eq] at hcut
    obtain ⟨block', rest', heq, hblock, hrest⟩ := exists_of_forall₂_append hcut
    obtain ⟨blocks', stop', hscan, hblocks, hstop⟩ := ih hrest
    cases hlines with
    | cons hline _ =>
      exact ⟨_, stop', .block (by rw [← hline.kind_eq, extent]) heq (closed.alike hblock) hscan,
        .cons ⟨hline, hblock⟩ hblocks, hstop⟩
  | @unterminated _ _ d _ extent unclosed =>
    have hunclosed : ∀ m ∈ lines', d.closes m = false := by
      intro m hm
      obtain ⟨l, hl, hlm⟩ := exists_of_forall₂_of_mem hlines hm
      rw [← hlm.closes_eq, unclosed l hl]
    cases hlines with
    | cons hline _ =>
      exact ⟨[], _, .unterminated (by rw [← hline.kind_eq, extent]) hunclosed, .nil, .some ⟨rfl, hline⟩⟩

/-! ### What a block stands for -/

theorem Header.comment_alike {xs ys : List Line} (h : List.Forall₂ Line.Alike xs ys) :
    (comment xs).LinesAlike (comment ys) := by
  have hcomment : ∀ {l m : Line}, l.Alike m → (isComment l ↔ isComment m) := by
    intro l m hlm
    rw [isComment, isComment, Text.alike_iff.1 hlm.text]
  exact Line.linesAlike_unlines (List.rel_filter (fun _ _ hlm => hcomment hlm) h)

theorem Header.stub_alike {header header' : Line} {body body' : List Line} (h : header.Alike header')
    (hbody : List.Forall₂ Line.Alike body body') :
    SameOutcome Fault.Alike Stub.Alike (stub header body) (stub header' body') := by
  obtain ⟨s, hs, hs'⟩ := h.text
  have hname : name? header.text = name? header'.text := by
    rw [name?_eq_of_isPadded hs, name?_eq_of_isPadded hs']
  have hlist := (signature_eq_of_isPadded hs).trans (signature_eq_of_isPadded hs').symm
  rw [stub, stub, hname]
  generalize argumentList? header.text = l, argumentList? header'.text = l' at hlist
  cases name? header'.text with
  | none => exact .error ⟨rfl, h⟩
  | some name =>
    cases l with
    | none =>
      cases l' with
      | none => exact .error ⟨rfl, h⟩
      | some _ => cases hlist
    | some a =>
      cases l' with
      | none => cases hlist
      | some a' =>
        obtain ⟨harguments, htype⟩ := Prod.mk.inj (Option.some.inj hlist)
        exact .ok ⟨rfl, congrArg arguments harguments, htype, comment_alike hbody⟩

theorem PreviousOutput.resolve_alike (previous : PreviousOutput) {header header' : Line} {s t : Stub}
    (h : header.Alike header') (hst : s.Alike t) :
    SameOutcome SyntaxError.Alike Construct.Alike (previous.resolve header s)
      (previous.resolve header' t) := by
  rw [resolve, resolve, hst.name]
  cases previous.function? t.name with
  | error cause => exact .error (.pinning h)
  | ok found =>
    cases found with
    | none => exact .ok (.function hst)
    | some body => exact .ok (.pinned hst body)

namespace Reader

theorem function_alike (previous : PreviousOutput) (isPinned : Bool) {header header' : Line}
    {block block' : List Line} (h : header.Alike header')
    (hblock : List.Forall₂ Line.Alike block block') :
    SameOutcome SyntaxError.Alike Construct.Alike (function previous isPinned header block)
      (function previous isPinned header' block') := by
  have hbody : List.Forall₂ Line.Alike block.tail.dropLast block'.tail.dropLast := by
    have hlength := hblock.length_eq
    simp only [List.dropLast_eq_take, ← List.drop_one, List.length_drop, hlength]
    exact List.forall₂_take _ (List.forall₂_drop 1 hblock)
  have hstub := Header.stub_alike h hbody
  rw [function, function]
  generalize Header.stub header _ = found, Header.stub header' _ = found' at hstub
  cases hstub with
  | error hfault => exact .error (.inSource hfault)
  | ok hst =>
    cases isPinned with
    | false => exact .ok (.function hst)
    | true => exact previous.resolve_alike h hst

theorem union_alike {header header' : Line} {block block' : List Line} (h : header.Alike header')
    (hblock : List.Forall₂ Line.Alike block block') :
    SameOutcome SyntaxError.Alike Construct.Alike (union header block) (union header' block') := by
  have htexts : (block.map fun line => line.text.trim) = block'.map fun line => line.text.trim :=
    map_eq_map_of_forall₂ hblock fun hlm => Text.alike_iff.1 hlm.text
  simp only [union, htexts]
  generalize Text.cutAt? '=' _ = cut
  cases cut with
  | none => exact .error (.inSource ⟨rfl, h⟩)
  | some parts =>
    dsimp only
    split
    · exact .error (.inSource ⟨rfl, h⟩)
    · exact .ok (.union _ _)

end Reader

theorem SourceBlock.construct_alike (previous : PreviousOutput) {b c : SourceBlock} (h : b.Alike c) :
    SameOutcome SyntaxError.Alike Construct.Alike (b.construct previous) (c.construct previous) := by
  have hexport : Reader.exportList b.header = Reader.exportList c.header := by
    rw [Reader.exportList, Reader.exportList, Text.alike_iff.1 h.header.text]
  rw [construct, construct, ← h.header.kind_eq]
  cases b.header.kind with
  | pinnedFunction => exact Reader.function_alike previous true h.header h.lines
  | function => exact Reader.function_alike previous false h.header h.lines
  | unionType => exact Reader.union_alike h.header h.lines
  | typeDefinition => exact .ok (.typeDefinition (Line.linesAlike_unlines h.lines))
  | _ =>
    rw [hexport]
    exact .ok (.exportList _)

/-! ### Reading -/

namespace Reader

theorem errors_alike {rs ss : List (Except SyntaxError Construct)}
    (h : List.Forall₂ (SameOutcome SyntaxError.Alike Construct.Alike) rs ss) :
    List.Forall₂ SyntaxError.Alike (errors rs) (errors ss) := by
  induction h with
  | nil => exact .nil
  | cons hrs _ ih =>
    cases hrs with
    | error herror => exact .cons herror ih
    | ok _ => exact ih

theorem constructs_alike {rs ss : List (Except SyntaxError Construct)}
    (h : List.Forall₂ (SameOutcome SyntaxError.Alike Construct.Alike) rs ss) :
    List.Forall₂ Construct.Alike (constructs rs) (constructs ss) := by
  induction h with
  | nil => exact .nil
  | cons hrs _ ih =>
    cases hrs with
    | error _ => exact ih
    | ok hconstruct => exact .cons hconstruct ih

theorem collect_alike {rs ss : List (Except SyntaxError Construct)}
    (h : List.Forall₂ (SameOutcome SyntaxError.Alike Construct.Alike) rs ss) :
    SameOutcome (List.Forall₂ SyntaxError.Alike) (List.Forall₂ Construct.Alike) (collect [] [] rs)
      (collect [] [] ss) := by
  have herrors := errors_alike h
  rw [collect_eq, collect_eq]
  cases hrs : errors rs with
  | nil =>
    rw [hrs, List.forall₂_nil_left_iff] at herrors
    rw [if_pos rfl, if_pos herrors]
    exact .ok (constructs_alike h)
  | cons error more =>
    rw [hrs] at herrors
    obtain ⟨error', more', herror, hmore, hss⟩ := List.forall₂_cons_left_iff.1 herrors
    rw [hss, if_neg (List.cons_ne_nil _ _), if_neg (List.cons_ne_nil _ _)]
    exact .error (.cons herror hmore)

end Reader

/-- The layout of a source means nothing: a source with other blanks around its lines is read to the same
constructs or fails with the same errors, up to blanks around the lines that these quote. -/
theorem readProgram_layout {source source' : Text} (h : source.LinesAlike source') (previous : Text) :
    SameOutcome (List.Forall₂ SyntaxError.Alike) (List.Forall₂ Construct.Alike)
      (readProgram source previous) (readProgram source' previous) := by
  obtain ⟨blocks, stop, hscan⟩ := Scan.exists_scan (Line.ofSource source)
  obtain ⟨blocks', stop', hscan', hblocks, hstop⟩ := hscan.alike (Line.alike_ofSource h)
  rw [Reader.readProgram_eq hscan, Reader.readProgram_eq hscan']
  cases hstop with
  | some hfault => exact .error (.cons (.inSource hfault) .nil)
  | none =>
    refine Reader.collect_alike ?_
    rw [List.forall₂_map_left_iff, List.forall₂_map_right_iff]
    exact hblocks.imp fun _ _ hblock => SourceBlock.construct_alike (.ofText previous) hblock

theorem readProgram_layout_of_carriage_returns :
    let source := Text.unlines ["pinned function f(a: A): B \x7b", "// first", "\x7d",
      "union type T =", "A | B;", "export f, T"]
    let source' := Text.unlines ["  pinned function f(a: A): B \x7b\r", "\t// first\r", "  \x7d\r",
      "union type T =\r", "  A | B;\r", "export f, T "]
    let previous : Text := "function f(a: A): B \x7b\n  return a.b;\n\x7d"
    let stub : Stub := ⟨"f", [⟨"a", "A"⟩], "B", "// first"⟩
    source.LinesAlike source' ∧
      ∃ program, readProgram source' previous = .ok program ∧
        List.Forall₂ Construct.Alike
          [.pinned stub previous, .union "T" ["A", "B"], .exportList ["f", "T"]] program := by
  intro source source' previous stub
  have halike : source.LinesAlike source' := by decide +kernel
  have hread : readProgram source previous =
      .ok [.pinned stub previous, .union "T" ["A", "B"], .exportList ["f", "T"]] := by
    decide +kernel
  have hsame := readProgram_layout halike previous
  rw [hread] at hsame
  generalize readProgram source' previous = result at hsame ⊢
  cases hsame with
  | ok hprogram => exact ⟨halike, _, rfl, hprogram⟩

end StubCompiler
