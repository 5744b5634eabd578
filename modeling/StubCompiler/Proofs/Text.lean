import Mathlib.Data.List.DropRight
import StubCompiler.Text.Cut

/-!
# Trimmed texts, joined texts

What trimming, cutting and splitting do to a text that was put together from parts: blanks around a
trimmed text go away, a cut is made at the mark that was put in, and a joined list comes apart into the
pieces that were joined.
-/

namespace StubCompiler.Text

/-! ### Trimming -/

theorem dropEnd_append {p : Char → Bool} {t w : Text} (h : ∀ c ∈ w, p c = true) :
    dropEnd p (t ++ w) = dropEnd p t := by
  have hw : ∀ c ∈ w.reverse, p c = true := fun c hc => h c (List.mem_reverse.1 hc)
  rw [dropEnd, List.reverse_append, List.dropWhile_append_of_pos hw, dropEnd]

theorem dropEnd_eq_rdropWhile (p : Char → Bool) (t : Text) : dropEnd p t = t.rdropWhile p := rfl

theorem dropEnd_eq_self {p : Char → Bool} {t : Text} (h : ∀ c, t.getLast? = some c → p c = false) :
    dropEnd p t = t := by
  rw [dropEnd_eq_rdropWhile, List.rdropWhile_eq_self_iff]
  intro hne
  rw [h _ (List.getLast?_eq_some_getLast hne)]
  exact Bool.false_ne_true

/-- What is dropped at the end of a text satisfies `p`, and what is left does not end in such a
character. -/
theorem exists_append_of_dropEnd (p : Char → Bool) (t : Text) :
    ∃ s, t = dropEnd p t ++ s ∧ (∀ c ∈ s, p c = true) ∧
      ∀ c, (dropEnd p t).getLast? = some c → p c = false := by
  refine ⟨(t.reverse.takeWhile p).reverse, ?_, ?_, ?_⟩
  · rw [dropEnd, ← List.reverse_append, List.takeWhile_append_dropWhile, List.reverse_reverse]
  · intro c hc
    exact List.all_eq_true.1 List.all_takeWhile c (List.mem_reverse.1 hc)
  · intro c hc
    rw [dropEnd, List.getLast?_reverse] at hc
    have hhead := List.head?_dropWhile_not p t.reverse
    rw [hc] at hhead
    exact hhead

theorem length_dropEnd_le (p : Char → Bool) (t : Text) : (dropEnd p t).length ≤ t.length :=
  (List.rdropWhile_prefix p t).length_le

theorem trim_eq_nil_iff (t : Text) : trim t = [] ↔ isBlankText t = true := by
  rw [isBlankText, List.all_eq_true, trim, trimEnd, dropEnd_eq_rdropWhile, List.rdropWhile_eq_nil_iff]
  induction t with
  | nil => simp
  | cons c t ih =>
    rw [List.dropWhile_cons]
    split
    · simp_all
    · simp

theorem length_trim_le (t : Text) : (trim t).length ≤ t.length :=
  Nat.le_trans (length_dropEnd_le isBlank _) (List.dropWhile_sublist isBlank).length_le

theorem trim_append_left {w t : Text} (h : isBlankText w = true) : trim (w ++ t) = trim t := by
  rw [trim, List.dropWhile_append_of_pos (List.all_eq_true.1 h), trim]

theorem trim_append_right {t w : Text} (h : isBlankText w = true) : trim (t ++ w) = trim t := by
  have hw : ∀ c ∈ w, isBlank c = true := List.all_eq_true.1 h
  rw [trim, trim, List.dropWhile_append]
  cases hd : t.dropWhile isBlank with
  | nil =>
    have hnil : w.dropWhile isBlank = [] := List.dropWhile_eq_nil_iff.2 hw
    simp [hnil, trimEnd]
  | cons c s =>
    show trimEnd (c :: s ++ w) = trimEnd (c :: s)
    exact dropEnd_append hw

/-- Trimming changes nothing if the ends of the text are not blank. -/
theorem trim_eq_self {t : Text} (hfirst : ∀ c, t.head? = some c → isBlank c = false)
    (hlast : ∀ c, t.getLast? = some c → isBlank c = false) : trim t = t := by
  have hd : t.dropWhile isBlank = t := by
    cases t with
    | nil => rfl
    | cons c s => simp [hfirst c rfl]
  rw [trim, hd]
  exact dropEnd_eq_self hlast

theorem trim_cons_concat {c d : Char} (t : Text) (hc : isBlank c = false) (hd : isBlank d = false) :
    trim (c :: (t ++ [d])) = c :: (t ++ [d]) := by
  apply trim_eq_self
  · intro x hx
    obtain rfl : c = x := by simpa using hx
    exact hc
  · intro x hx
    rw [← List.cons_append, List.getLast?_concat] at hx
    obtain rfl : d = x := Option.some.inj hx
    exact hd

theorem isBlank_head_of_trim_eq {c : Char} {s : Text} (h : trim (c :: s) = c :: s) :
    isBlank c = false := by
  cases hc : isBlank c with
  | false => rfl
  | true =>
    have hs : trim (c :: s) = trim s := trim_append_left (w := [c]) (by simp [isBlankText, hc])
    have hlen := length_trim_le s
    rw [← hs, h, List.length_cons] at hlen
    omega

theorem isBlank_last_of_trim_eq {c : Char} {s : Text} (h : trim (s ++ [c]) = s ++ [c]) :
    isBlank c = false := by
  cases hc : isBlank c with
  | false => rfl
  | true =>
    have hs : trim (s ++ [c]) = trim s := trim_append_right (by simp [isBlankText, hc])
    have hlen := length_trim_le s
    rw [← hs, h, List.length_append, List.length_singleton] at hlen
    omega

theorem mem_of_mem_dropEnd {p : Char → Bool} {t : Text} {c : Char} (h : c ∈ dropEnd p t) : c ∈ t :=
  (List.rdropWhile_prefix p t).subset h

theorem mem_of_mem_trim {t : Text} {c : Char} (h : c ∈ trim t) : c ∈ t :=
  (List.dropWhile_sublist isBlank).subset (mem_of_mem_dropEnd h)

/-! ### Cutting -/

theorem isPrefixOf?_append (s t : Text) : s.isPrefixOf? (s ++ t) = some t :=
  List.isPrefixOf?_eq_some_iff_append_eq.2 rfl

theorem cutAt?_append_cons {mark : Char} {before : Text} (h : mark ∉ before) (after : Text) :
    cutAt? mark (before ++ mark :: after) = some (before, after) := by
  induction before with
  | nil => simp [cutAt?]
  | cons c before ih =>
    rw [List.mem_cons, not_or] at h
    simp [cutAt?, Ne.symm h.1, ih h.2]

theorem cut?_append {p : Text} (hp : p ≠ []) (t : Text) : cut? p (p ++ t) = some ([], t) := by
  cases p with
  | nil => exact absurd rfl hp
  | cons c p =>
    have h := isPrefixOf?_append (c :: p) t
    rw [List.cons_append] at h ⊢
    simp [cut?, h]

theorem eq_of_cutLast? {pattern t before after : Text}
    (h : cutLast? pattern t = some (before, after)) : t = before ++ pattern ++ after := by
  induction t generalizing before after with
  | nil =>
    by_cases hp : pattern = []
    · simp [cutLast?, hp] at h
      simp [h, hp]
    · simp [cutLast?, hp] at h
  | cons c t ih =>
    rw [cutLast?] at h
    split at h
    · rename_i b a hba
      simp only [Option.some.injEq, Prod.mk.injEq] at h
      obtain ⟨rfl, rfl⟩ := h
      simp [ih hba]
    · simp only [Option.map_eq_some_iff, Prod.mk.injEq] at h
      obtain ⟨rest, hrest, rfl, rfl⟩ := h
      simpa using (List.isPrefixOf?_eq_some_iff_append_eq.1 hrest).symm

theorem cutLast?_eq_none {p t : Text} (h : t.length < p.length) : cutLast? p t = none := by
  cases hc : cutLast? p t with
  | none => rfl
  | some parts =>
    obtain ⟨before, after⟩ := parts
    rw [eq_of_cutLast? hc, List.length_append, List.length_append] at h
    omega

theorem cutLast?_append {p : Text} (hp : p ≠ []) (t : Text) :
    cutLast? p (t ++ p) = some (t, []) := by
  induction t with
  | nil =>
    cases p with
    | nil => exact absurd rfl hp
    | cons c p =>
      have hshort : cutLast? (c :: p) p = none := cutLast?_eq_none (by simp)
      have hwhole : (c :: p).isPrefixOf? (c :: p) = some [] :=
        List.isPrefixOf?_eq_some_iff_append_eq.2 (List.append_nil _)
      simp [cutLast?, hshort, hwhole]
  | cons c t ih => simp [cutLast?, ih]

/-- A text is cut at the first place where the pattern occurs. -/
theorem cut?_eq_some_iff {pattern t before after : Text} :
    cut? pattern t = some (before, after) ↔
      t = before ++ pattern ++ after ∧ ∀ u v, t = u ++ pattern ++ v → before.length ≤ u.length := by
  induction t generalizing before with
  | nil =>
    rw [cut?]
    split
    · rename_i hp
      subst hp
      constructor
      · intro h
        cases h
        exact ⟨rfl, fun u v _ => Nat.zero_le _⟩
      · rintro ⟨h, -⟩
        simp only [List.append_nil] at h
        obtain ⟨rfl, rfl⟩ := List.append_eq_nil_iff.1 h.symm
        rfl
    · rename_i hp
      constructor
      · intro h
        cases h
      · rintro ⟨h, -⟩
        have hboth := List.append_eq_nil_iff.1 (List.append_eq_nil_iff.1 h.symm).1
        exact absurd hboth.2 hp
  | cons c t ih =>
    rw [cut?]
    split
    · rename_i rest hrest
      have heq := (List.isPrefixOf?_eq_some_iff_append_eq.1 hrest).symm
      constructor
      · intro h
        cases h
        exact ⟨heq, fun u v _ => Nat.zero_le _⟩
      · rintro ⟨h, hfirst⟩
        -- The pattern stands at the very start, so nothing is before its first place.
        have hlen := hfirst [] rest heq
        obtain rfl : before = [] := List.length_eq_zero_iff.1 (Nat.le_zero.1 hlen)
        have hafter : rest = after := by
          rw [heq] at h
          simpa using h
        rw [hafter]
    · rename_i hnone
      have hhead : ∀ v, c :: t ≠ pattern ++ v := by
        intro v hv
        rw [List.isPrefixOf?_eq_some_iff_append_eq.2 hv.symm] at hnone
        cases hnone
      rw [Option.map_eq_some_iff]
      constructor
      · rintro ⟨⟨b, a⟩, hba, hpair⟩
        cases hpair
        obtain ⟨rfl, hfirst⟩ := ih.1 hba
        refine ⟨rfl, fun u v huv => ?_⟩
        cases u with
        | nil => exact absurd huv (hhead v)
        | cons d u =>
          have := hfirst u v (List.cons.inj huv).2
          simp only [List.length_cons]
          omega
      · rintro ⟨h, hfirst⟩
        cases before with
        | nil => exact absurd h (hhead after)
        | cons d b =>
          obtain ⟨rfl, ht⟩ := List.cons.inj h
          refine ⟨(b, after), ih.2 ⟨ht, fun u v huv => ?_⟩, rfl⟩
          have := hfirst (c :: u) v (congrArg (c :: ·) huv)
          simpa using this

theorem cutLast?_eq_none_iff {pattern t : Text} :
    cutLast? pattern t = none ↔ ∀ u v, t ≠ u ++ pattern ++ v := by
  induction t with
  | nil =>
    rw [cutLast?]
    split
    · rename_i hp
      subst hp
      simp
    · rename_i hp
      simp only [true_iff]
      intro u v huv
      have hboth := List.append_eq_nil_iff.1 (List.append_eq_nil_iff.1 huv.symm).1
      exact hp hboth.2
  | cons c t ih =>
    rw [cutLast?]
    split
    · rename_i before after hcut
      have heq := eq_of_cutLast? hcut
      simp only [reduceCtorEq, false_iff]
      intro hno
      exact hno (c :: before) after (congrArg (c :: ·) heq)
    · rename_i hnone
      rw [Option.map_eq_none_iff, Option.eq_none_iff_forall_ne_some]
      constructor
      · intro hhead u v huv
        cases u with
        | nil => exact hhead v (List.isPrefixOf?_eq_some_iff_append_eq.2 huv.symm)
        | cons d u => exact ih.1 hnone u v (List.cons.inj huv).2
      · intro hno rest hrest
        exact hno [] rest (List.isPrefixOf?_eq_some_iff_append_eq.1 hrest).symm

theorem length_le_of_cutLast? {pattern t before after u v : Text}
    (h : cutLast? pattern t = some (before, after)) (huv : t = u ++ pattern ++ v) :
    u.length ≤ before.length := by
  induction t generalizing before u with
  | nil =>
    have hu : u = [] := (List.append_eq_nil_iff.1 (List.append_eq_nil_iff.1 huv.symm).1).1
    rw [hu]
    exact Nat.zero_le _
  | cons c t ih =>
    cases u with
    | nil => exact Nat.zero_le _
    | cons d u =>
      have htail : t = u ++ pattern ++ v := (List.cons.inj huv).2
      rw [cutLast?] at h
      split at h
      · rename_i hcut
        cases h
        exact Nat.succ_le_succ (ih hcut htail)
      · rename_i hnone
        exact absurd htail (cutLast?_eq_none_iff.1 hnone u v)

/-- A text is cut at the last place where the pattern occurs. -/
theorem cutLast?_eq_some_iff {pattern t before after : Text} :
    cutLast? pattern t = some (before, after) ↔
      t = before ++ pattern ++ after ∧ ∀ u v, t = u ++ pattern ++ v → u.length ≤ before.length := by
  constructor
  · intro h
    exact ⟨eq_of_cutLast? h, fun u v huv => length_le_of_cutLast? h huv⟩
  · rintro ⟨heq, hlast⟩
    cases hcut : cutLast? pattern t with
    | none => exact absurd heq (cutLast?_eq_none_iff.1 hcut before after)
    | some parts =>
      -- Both places are the last one, so they have the same length before them.
      obtain ⟨b, a⟩ := parts
      have hown := eq_of_cutLast? hcut
      have hle := length_le_of_cutLast? hcut heq
      have hge := hlast b a hown
      rw [hown, List.append_assoc, List.append_assoc] at heq
      obtain ⟨rfl, hrest⟩ := List.append_inj heq (Nat.le_antisymm hge hle)
      rw [List.append_cancel_left hrest]

theorem cutAt?_eq_some_iff {mark : Char} {t before after : Text} :
    cutAt? mark t = some (before, after) ↔ t = before ++ mark :: after ∧ mark ∉ before := by
  constructor
  · intro h
    exact ⟨eq_of_cutAt? h, not_mem_of_cutAt? h⟩
  · rintro ⟨rfl, h⟩
    exact cutAt?_append_cons h after

theorem cutAt?_append_left {mark : Char} {s : Text} (h : mark ∉ s) (t : Text) :
    cutAt? mark (s ++ t) = (cutAt? mark t).map fun (before, after) => (s ++ before, after) := by
  induction s with
  | nil => simp
  | cons c s ih =>
    rw [List.mem_cons, not_or] at h
    simp [cutAt?, Ne.symm h.1, ih h.2, Function.comp_def]

/-! ### Fields

A field is a text that a reader can take out from between marks: it is not empty, has no blank at
either end, and none of the marks stands in it. -/

structure IsField (marks t : Text) : Prop where
  trim_eq : trim t = t
  ne_nil : t ≠ []
  not_mem : ∀ c ∈ marks, c ∉ t

instance (marks t : Text) : Decidable (IsField marks t) :=
  decidable_of_iff (trim t = t ∧ t ≠ [] ∧ marks.all (· ∉ t) = true)
    ⟨fun h => ⟨h.1, h.2.1, by simpa using h.2.2⟩,
      fun h => ⟨h.trim_eq, h.ne_nil, by simpa using h.not_mem⟩⟩

/-- Blanks around a trimmed text go away. -/
theorem trim_pad {u t w : Text} (hu : isBlankText u = true) (ht : trim t = t)
    (hw : isBlankText w = true) : trim (u ++ t ++ w) = t := by
  rw [trim_append_right hw, trim_append_left hu, ht]

theorem not_mem_of_isBlankText {c : Char} {w : Text} (hc : isBlank c = false)
    (hw : isBlankText w = true) : c ∉ w := by
  intro h
  have hb : isBlank c = true := List.all_eq_true.1 hw c h
  rw [hc] at hb
  exact Bool.false_ne_true hb

/-- A joined list comes apart again: the items are printed without the mark that separates them, and
`read` is what a print is parsed to with blanks around it, or with `last` behind it. -/
theorem filterMap_splitOn_join {α β : Type} {print : α → Text} {parse : Text → Option β}
    {read : α → Option β} {mark : Char} (first u v last : Text) (hmark : isBlank mark = false)
    (hfirst : isBlankText first = true) (hu : isBlankText u = true) (hv : isBlankText v = true)
    (hlast : mark ∉ last) (x : α) (xs : List α) (hprint : ∀ y ∈ x :: xs, mark ∉ print y)
    (hparse : ∀ y ∈ x :: xs, ∀ w z, isBlankText w = true → isBlankText z = true ∨ z = last →
      parse (w ++ print y ++ z) = read y) :
    ((first ++ List.intercalate (u ++ mark :: v) ((x :: xs).map print) ++ last).splitOn mark).filterMap
      parse = (x :: xs).filterMap read := by
  induction xs generalizing x first with
  | nil =>
    have hx : mark ∉ first ++ print x ++ last := by
      simp only [List.mem_append, not_or]
      exact ⟨⟨not_mem_of_isBlankText hmark hfirst, hprint x (by simp)⟩, hlast⟩
    have hread := hparse x (by simp) first last hfirst (Or.inr rfl)
    simp only [List.map_cons, List.map_nil, List.intercalate_singleton]
    rw [List.splitOn_eq_singleton hx, List.filterMap_cons, hread]
    rfl
  | cons y ys ih =>
    have hx : mark ∉ first ++ print x ++ u := by
      simp only [List.mem_append, not_or]
      exact ⟨⟨not_mem_of_isBlankText hmark hfirst, hprint x (by simp)⟩,
        not_mem_of_isBlankText hmark hu⟩
    have hread := hparse x (by simp) first u hfirst (Or.inl hu)
    have hrest := ih v hv y (fun z hz => hprint z (List.mem_cons_of_mem _ hz))
      (fun z hz => hparse z (List.mem_cons_of_mem _ hz))
    have hjoin : first ++ List.intercalate (u ++ mark :: v) ((x :: y :: ys).map print) ++ last =
        (first ++ print x ++ u) ++
          mark :: (v ++ List.intercalate (u ++ mark :: v) ((y :: ys).map print) ++ last) := by
      simp [List.intercalate_cons_cons]
    rw [hjoin, List.splitOn_append_cons_self_of_not_mem hx, List.filterMap_cons, hread, hrest]
    rfl

theorem not_mem_intercalate {c : Char} {sep : Text} {ts : List Text} (hsep : c ∉ sep)
    (h : ∀ t ∈ ts, c ∉ t) : c ∉ List.intercalate sep ts := by
  induction ts with
  | nil => simp
  | cons t ts ih =>
    have ht : c ∉ t := h t (by simp)
    cases ts with
    | nil => simpa using ht
    | cons u us =>
      have hrest := ih fun v hv => h v (List.mem_cons_of_mem _ hv)
      simp only [List.intercalate_cons_cons, List.mem_append, not_or]
      exact ⟨⟨ht, hsep⟩, hrest⟩

/-- The pieces of a text hold its characters, but not the mark at which it was split. -/
theorem mem_of_mem_splitOn {mark : Char} {s t : Text} (h : t ∈ s.splitOn mark) {c : Char} (hc : c ∈ t) :
    c ∈ s ∧ c ≠ mark := by
  induction s generalizing t with
  | nil =>
    rw [List.splitOn_nil, List.mem_singleton] at h
    rw [h] at hc
    cases hc
  | cons d s ih =>
    rw [List.splitOn_cons_eq_if_modifyHead] at h
    split at h
    · rcases List.mem_cons.1 h with rfl | h
      · cases hc
      · exact ⟨List.mem_cons_of_mem d (ih h hc).1, (ih h hc).2⟩
    · rename_i hd
      cases hs : s.splitOn mark with
      | nil => exact absurd hs (List.splitOn_ne_nil mark s)
      | cons u us =>
        rw [hs, List.modifyHead_cons] at h
        rw [hs] at ih
        rcases List.mem_cons.1 h with rfl | h
        · rcases List.mem_cons.1 hc with rfl | hc
          · exact ⟨by simp, by simpa using hd⟩
          · have := ih (by simp) hc
            exact ⟨List.mem_cons_of_mem d this.1, this.2⟩
        · have := ih (List.mem_cons_of_mem u h) hc
          exact ⟨List.mem_cons_of_mem d this.1, this.2⟩

/-! ### Lines -/

theorem lines_unlines {ts : List Text} (h : ∀ t ∈ ts, '\n' ∉ t) (hne : ts ≠ []) :
    lines (unlines ts) = ts :=
  List.splitOn_intercalate '\n' h hne

theorem lines_unlines_map {α : Type} {f : α → Text} {xs : List α} (h : ∀ x ∈ xs, '\n' ∉ f x)
    (hne : xs ≠ []) : lines (unlines (xs.map f)) = xs.map f :=
  lines_unlines (List.forall_mem_map.2 h) fun hnil => hne (List.map_eq_nil_iff.1 hnil)

theorem not_mem_of_mem_lines {s t : Text} (h : t ∈ lines s) : '\n' ∉ t :=
  fun hc => (mem_of_mem_splitOn h hc).2 rfl

theorem lines_of_not_mem {t : Text} (h : '\n' ∉ t) : lines t = [t] :=
  List.splitOn_eq_singleton h

theorem lines_cons_newline {s : Text} (h : '\n' ∉ s) (t : Text) :
    lines (s ++ '\n' :: t) = s :: lines t := by
  rw [lines_append_newline, lines_of_not_mem h, List.singleton_append]

end StubCompiler.Text
