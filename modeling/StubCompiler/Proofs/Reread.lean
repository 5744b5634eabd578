import StubCompiler.Proofs.Influence
import StubCompiler.Proofs.Prompt

/-!
# Reading again what was read

What was read from a source is printed in one form, whatever the form it had there.  A function that was
read is read again from the stub in its prompt (`readProgram_print_of_read`): no part of it can be
mistaken for another, however the header was written.  A union is read again from its alias if the
semicolons at the end of each of its tags stood together (`readProgram_union_of_read`); if blanks stood
between them, a semicolon is kept as a part of the tag, and is lost in the second reading.
-/

namespace StubCompiler

/-! ### What a block was read as -/

theorem Reader.union_eq_ok {b : SourceBlock} {c : Construct} (h : union b.header b.lines = .ok c) :
    ∃ name rest, b.unionText = name ++ '=' :: rest ∧ '=' ∉ name ∧ name.trim ≠ [] ∧
      c = .union name.trim (tags rest) := by
  rw [union_eq] at h
  split at h
  · cases h
  · rename_i name rest hcut
    obtain ⟨htext, hmem⟩ := Text.cutAt?_eq_some_iff.1 hcut
    split at h
    · cases h
    · rename_i hname
      exact ⟨name, rest, htext, hmem, hname, (Except.ok.inj h).symm⟩

/-- A block was read as a function with the stub of its header, as a union with the parts of its text, or
as one of the two constructs that have no parts. -/
theorem SourceBlock.construct_cases {b : SourceBlock} {p : PreviousOutput} {c : Construct}
    (h : b.construct p = .ok c) :
    (∃ stub, b.stub = .ok stub ∧ c.stub? = some stub) ∨
    (∃ name rest, b.unionText = name ++ '=' :: rest ∧ '=' ∉ name ∧ name.trim ≠ [] ∧
      c = .union name.trim (Reader.tags rest)) ∨
    (∃ body, c = .typeDefinition body) ∨ ∃ names, c = .exportList names := by
  cases hkind : b.header.kind with
  | pinnedFunction => exact Or.inl (exists_stub_of_construct hkind h)
  | function =>
    rw [construct, hkind] at h
    dsimp only at h
    rw [Reader.function] at h
    cases hstub : Header.stub b.header b.lines.tail.dropLast with
    | error fault =>
      rw [hstub] at h
      cases h
    | ok stub =>
      rw [hstub] at h
      cases h
      exact Or.inl ⟨stub, hstub, rfl⟩
  | unionType =>
    rw [construct, hkind] at h
    exact Or.inr (Or.inl (Reader.union_eq_ok h))
  | typeDefinition =>
    rw [construct, hkind] at h
    cases h
    exact Or.inr (Or.inr (Or.inl ⟨_, rfl⟩))
  | _ =>
    rw [construct, hkind] at h
    cases h
    exact Or.inr (Or.inr (Or.inr ⟨_, rfl⟩))

/-- A source that was read is scanned to its end, and its constructs are those of its blocks. -/
theorem exists_blocks_of_read {source previous : Text} {program : Program}
    (h : readProgram source previous = .ok program) :
    ∃ blocks, Scan (Line.ofSource source) blocks none ∧
      List.Forall₂ (fun b c => b.IsFrom (Line.ofSource source) ∧
        b.construct (.ofText previous) = .ok c) blocks program := by
  obtain ⟨blocks, stop, hscan⟩ := Scan.exists_scan (Line.ofSource source)
  have hend : stop = none := by
    refine (hscan.stop_eq_none_iff previous).2 ?_
    intro kind line hfail
    rw [Reader.IsUnterminated, h] at hfail
    cases hfail
  subst hend
  exact ⟨blocks, hscan, (List.forall₂_and_left _ _).2
    ⟨SourceBlock.isFrom_of_ofLines hscan.ofLines_eq, Reader.forall₂_construct hscan h⟩⟩

/-! ### Parts that were read -/

theorem Text.trim_trim (t : Text) : t.trim.trim = t.trim := (isPadded_trim t).trim_eq.symm

theorem Text.isBlank_of_head?_trim {t : Text} {c : Char} (h : t.trim.head? = some c) :
    isBlank c = false := by
  obtain ⟨rest, hrest⟩ := List.head?_eq_some_iff.1 h
  have htwice := trim_trim t
  rw [hrest] at htwice
  exact isBlank_head_of_trim_eq htwice

theorem Text.isField_trim {marks t : Text} (hne : t.trim ≠ []) (h : ∀ c ∈ marks, c ∉ t) :
    IsField marks t.trim :=
  ⟨trim_trim t, hne, fun c hc hmem => h c hc (mem_of_mem_trim hmem)⟩

/-! ### Functions -/

namespace Text

def isParenthesis (c : Char) : Bool := c == '(' || c == ')'

theorem isParenthesis_iff {c : Char} : isParenthesis c = true ↔ c = '(' ∨ c = ')' := by
  simp [isParenthesis]

/-- Only the parentheses of a text decide whether it is balanced. -/
theorem IsBalanced.of_filter_eq {s t : Text} (hs : s.IsBalanced)
    (h : s.filter isParenthesis = t.filter isParenthesis) : t.IsBalanced := by
  have hcount : ∀ {u v : Text}, u.filter isParenthesis = v.filter isParenthesis →
      u.count '(' = v.count '(' ∧ u.count ')' = v.count ')' := by
    intro u v huv
    have hopen : isParenthesis '(' = true := by decide
    have hclose : isParenthesis ')' = true := by decide
    rw [← List.count_filter hopen, ← List.count_filter hclose, huv, List.count_filter hopen,
      List.count_filter hclose]
    exact ⟨rfl, rfl⟩
  constructor
  · intro n
    -- The parentheses up to this place are those of a part at the start of `s`.
    have hsplit : s.filter isParenthesis =
        (t.take n).filter isParenthesis ++ (t.drop n).filter isParenthesis := by
      rw [h, ← List.filter_append, List.take_append_drop]
    obtain ⟨u, v, rfl, hu, -⟩ := List.filter_eq_append_iff.1 hsplit
    obtain ⟨hopen, hclose⟩ := hcount hu
    have hle := hs.count_le u.length
    rw [List.take_left] at hle
    omega
  · obtain ⟨hopen, hclose⟩ := hcount h
    have heq := hs.count_eq
    omega

end Text

namespace Header

open Text

/-- No parenthesis stands in a piece of the list that is dropped because it has no name. -/
def DropsNoParenthesis (list : Text) : Prop :=
  ∀ piece ∈ list.splitOn ',', (pieceName piece).isBlankText = true → '(' ∉ piece ∧ ')' ∉ piece

theorem balanced_arguments {list : Text} (hlist : list.IsBalanced) (h : DropsNoParenthesis list) :
    Text.IsBalanced (List.intercalate ", " ((arguments list).map Argument.print)) := by
  have hblank : ∀ c, isBlank c = true → isParenthesis c = false := by
    intro c hc
    cases hp : isParenthesis c with
    | false => rfl
    | true =>
      rcases isParenthesis_iff.1 hp with rfl | rfl <;> cases hc
  refine hlist.of_filter_eq (filter_arguments_of_dropped hblank (by decide) (by decide) ?_).symm
  intro piece hpiece hname
  obtain ⟨hopen, hclose⟩ := h piece hpiece hname
  rw [List.filter_eq_nil_iff]
  intro c hc hp
  rcases isParenthesis_iff.1 hp with rfl | rfl
  · exact hopen hc
  · exact hclose hc

theorem wellFormed_pieceArgument {piece : Text} (hname : (pieceName piece).isBlankText = false)
    (hcomma : ',' ∉ piece) (hbreak : '\n' ∉ piece) : (pieceArgument piece).WellFormed := by
  have hsubset : ∀ c ∈ pieceName piece, c ∈ piece := fun c hc => (List.takeWhile_sublist _).subset hc
  have htype : ∀ c ∈ pieceType piece, c ∈ piece := fun c hc =>
    (List.dropWhile_sublist _).subset (List.mem_of_mem_tail hc)
  have hcolon : ':' ∉ pieceName piece := by
    intro hc
    have hkeep := List.all_eq_true.1 List.all_takeWhile ':' hc
    simp at hkeep
  refine ⟨isField_trim (trim_ne_nil hname) ?_, trim_trim _, ?_⟩
  · intro c hc
    have hcases : c = ',' ∨ c = ':' ∨ c = '\n' := by simpa using hc
    rcases hcases with rfl | rfl | rfl
    · exact fun hmem => hcomma (hsubset _ hmem)
    · exact hcolon
    · exact fun hmem => hbreak (hsubset _ hmem)
  · intro c hc hmem
    have hcases : c = ',' ∨ c = '\n' := by simpa using hc
    have hpiece := htype c (mem_of_mem_trim hmem)
    rcases hcases with rfl | rfl
    · exact hcomma hpiece
    · exact hbreak hpiece

theorem wellFormed_arguments {list : Text} (hbreak : '\n' ∉ list) :
    ∀ a ∈ arguments list, a.WellFormed := by
  intro a ha
  obtain ⟨piece, hpiece, hread⟩ := List.mem_filterMap.1 ha
  rw [argument?_eq] at hread
  split at hread
  · cases hread
  · rename_i hname
    obtain rfl := Option.some.inj hread
    refine wellFormed_pieceArgument (by simpa using hname) ?_ ?_
    · exact fun hc => (mem_of_mem_splitOn hpiece hc).2 rfl
    · exact fun hc => hbreak (mem_of_mem_splitOn hpiece hc).1

theorem isField_returnType {after : Text} (hbreak : '\n' ∉ after) : IsField "\n" (returnType after) := by
  have hdefault : IsField "\n" defaultReturnType := by decide
  rw [returnType]
  split
  · rename_i type rest hcut
    split
    · exact hdefault
    · rename_i hne
      obtain ⟨text, hafter, htext⟩ := Option.bind_eq_some_iff.1 hcut
      refine isField_trim hne ?_
      intro c hc hmem
      obtain rfl : c = '\n' := by simpa using hc
      apply hbreak
      rw [← List.isPrefixOf?_eq_some_iff_append_eq.1 hafter, eq_of_cutLast? htext]
      simp [hmem]
  · exact hdefault

theorem comment_eq_nil_or {body : List Line} (hbreak : ∀ l ∈ body, '\n' ∉ l.text) :
    comment body = [] ∨ ∀ t ∈ (comment body).lines, List.isPrefixOf "//" t.trim = true := by
  by_cases hnil : body.filter isComment = []
  · exact Or.inl (by rw [comment, hnil]; rfl)
  · have hlines : (comment body).lines = (body.filter isComment).map Line.text :=
      lines_unlines_map (fun l hl => hbreak l (List.mem_filter.1 hl).1) hnil
    refine Or.inr ?_
    rw [hlines, List.forall_mem_map]
    exact fun l hl => (List.mem_filter.1 hl).2

theorem stub_eq_ok {header : Line} {body : List Line} {s : Stub} (h : stub header body = .ok s) :
    name? header.text = some s.name ∧ ∃ a, argumentList? header.text = some a ∧
      s.arguments = arguments a.list ∧ s.returnType = returnType a.after ∧ s.comment = comment body := by
  rw [stub] at h
  split at h
  · cases h
  · rename_i name hname
    split at h
    · cases h
    · rename_i a hlist
      obtain rfl := Except.ok.inj h
      exact ⟨hname, a, hlist, rfl, rfl, rfl⟩

/-- The parts of a stub that was read can be told apart in print, unless a parenthesis was dropped. -/
theorem wellFormed_of_stub {header : Line} {body : List Line} {s : Stub} (h : stub header body = .ok s)
    (hheader : '\n' ∉ header.text) (hbody : ∀ l ∈ body, '\n' ∉ l.text) :
    ∃ a, argumentList? header.text = some a ∧ (DropsNoParenthesis a.list → s.WellFormed) := by
  obtain ⟨hname, a, hlist, hargs, htype, hcomment⟩ := stub_eq_ok h
  obtain ⟨before, between, inner, hopens, hbetween, hne⟩ := name?_eq_some_iff.1 hname
  obtain ⟨before', name, hopens', hbalanced, -⟩ := argumentList?_eq_some_iff.1 hlist
  refine ⟨a, hlist, fun hdrop => ?_⟩
  have hinner : ∀ c ∈ a.list ++ ')' :: a.after, c ∈ header.text := by
    intro c hc
    rw [hopens'.eq]
    exact List.mem_append_right _ (List.mem_append_right _ (List.mem_cons_of_mem _ hc))
  have hbreak : '\n' ∉ a.list ∧ '\n' ∉ a.after :=
    ⟨fun hc => hheader (hinner _ (List.mem_append_left _ hc)),
      fun hc => hheader (hinner _ (List.mem_append_right _ (List.mem_cons_of_mem _ hc)))⟩
  refine ⟨?_, ?_, ?_, ?_, ?_⟩
  · rw [← hbetween]
    refine isField_trim (by rw [hbetween]; exact hne) ?_
    intro c hc
    have hcases : c = '(' ∨ c = '\n' := by simpa using hc
    rcases hcases with rfl | rfl
    · exact hopens.not_mem
    · intro hmem
      apply hheader
      rw [hopens.eq]
      exact List.mem_append_right _ (List.mem_append_left _ hmem)
  · rw [hargs]
    exact wellFormed_arguments hbreak.1
  · rw [hargs]
    exact balanced_arguments hbalanced hdrop
  · rw [htype]
    exact isField_returnType hbreak.2
  · rw [hcomment]
    exact comment_eq_nil_or hbody

end Header

/-- What the service is asked for is the function that the source declares: every stub that was read is
read again from its print, whatever the header looked like, if no parenthesis was dropped from its
argument list. -/
theorem readProgram_print_of_read {source previous : Text} {program : Program}
    (h : readProgram source previous = .ok program) :
    ∃ blocks, Scan (Line.ofSource source) blocks none ∧
      List.Forall₂ (fun b c => b.construct (.ofText previous) = .ok c ∧
        ∀ stub, c.stub? = some stub →
          ∃ a, Header.argumentList? b.header.text = some a ∧
            (Header.DropsNoParenthesis a.list →
              ∀ other, readProgram stub.print other = .ok [.function stub])) blocks program := by
  obtain ⟨blocks, hscan, hblocks⟩ := exists_blocks_of_read h
  refine ⟨blocks, hscan, hblocks.imp fun b c hbc => ⟨hbc.2, fun stub hstub => ?_⟩⟩
  obtain ⟨hfrom, hconstruct⟩ := hbc
  have hbreak : ∀ l ∈ b.lines, '\n' ∉ l.text := fun l hl =>
    Line.not_mem_of_mem_ofSource (hfrom.subset hl)
  rcases SourceBlock.construct_cases hconstruct with
    ⟨own, hown, hsame⟩ | ⟨name, rest, -, -, -, rfl⟩ | ⟨body, rfl⟩ | ⟨names, rfl⟩
  · obtain rfl : own = stub := Option.some.inj (hsame.symm.trans hstub)
    have hheader := hbreak b.header (List.mem_of_mem_head? hfrom.header)
    have hbody : ∀ l ∈ b.lines.tail.dropLast, '\n' ∉ l.text := fun l hl =>
      hbreak l (List.mem_of_mem_tail ((List.dropLast_sublist _).subset hl))
    obtain ⟨a, hlist, hwell⟩ := Header.wellFormed_of_stub hown hheader hbody
    exact ⟨a, hlist, fun hdrop other => ((hwell hdrop).isReadBack _).readProgram_eq⟩
  all_goals cases hstub

/-- The types are cut at their commas, and the piece without a name is dropped. -/
theorem readProgram_print_of_read_of_commas_in_types :
    let header : Text := "pinned function  f( g: (x, y) => A ,, m : Map<K, V>): B \x7b // old"
    let source := Text.unlines [header, "  // note", "  return;", "\x7d"]
    let previous : Text := "function f(): B \x7b\n\x7d"
    let arguments : List Argument := [⟨"g", "(x"⟩, ⟨"y) => A", []⟩, ⟨"m", "Map<K"⟩, ⟨"V>", []⟩]
    let stub : Stub := ⟨"f", arguments, "B", "  // note"⟩
    readProgram source previous = .ok [.pinned stub previous] ∧
      readProgram stub.print [] = .ok [.function stub] := by
  intro header source previous arguments stub
  have hread : readProgram source previous = .ok [.pinned stub previous] := by decide +kernel
  obtain ⟨blocks, hscan, hblocks⟩ := readProgram_print_of_read hread
  cases hblocks with
  | @cons b _ _ _ hfunction hrest =>
    cases hrest
    have hheader : (SourceBlock.ofLines (Line.ofSource source)).map
        (List.map fun block => block.header.text) = .ok [header] := by
      decide +kernel
    rw [hscan.ofLines_eq] at hheader
    have htext : b.header.text = header := List.head_eq_of_cons_eq (Except.ok.inj hheader)
    obtain ⟨a, hlist, hprint⟩ := hfunction.2 stub rfl
    rw [htext] at hlist
    have hown : (Header.argumentList? header).map (·.list) =
        some (" g: (x, y) => A ,, m : Map<K, V>" : Text) := by
      decide +kernel
    rw [hlist] at hown
    have hpieces : a.list = " g: (x, y) => A ,, m : Map<K, V>" := Option.some.inj hown
    have hdrop : Header.DropsNoParenthesis a.list := by
      rw [hpieces, Header.DropsNoParenthesis]
      decide +kernel
    exact ⟨hread, hprint hdrop []⟩

/-! ### Unions -/

namespace Reader

open Text

/-- Blanks aside, the piece ends in a semicolon, blanks, and more semicolons. -/
def EndsLoosely (piece : Text) : Prop :=
  ∃ u w s : Text, piece.trim = u ++ ';' :: (w ++ s) ∧ w ≠ [] ∧ w.isBlankText = true ∧ s ≠ [] ∧
    ∀ c ∈ s, c = ';'

theorem tag?_of_endsLoosely {piece : Text} (h : EndsLoosely piece) :
    ∃ t, tag? piece = some t ∧ t.getLast? = some ';' := by
  obtain ⟨u, w, s, htrim, hw, hblank, -, hall⟩ := h
  -- The semicolons behind the blanks are dropped, then the blanks; the semicolon before them is kept.
  have hdrop : dropEnd (· == ';') (u ++ ';' :: (w ++ s)) = u ++ ';' :: w := by
    have hlast : ∀ c, (u ++ ';' :: w).getLast? = some c → (c == ';') = false := by
      intro c hc
      obtain ⟨v, d, rfl⟩ := (List.eq_nil_or_concat' w).resolve_left hw
      rw [← List.cons_append, ← List.append_assoc, List.getLast?_concat] at hc
      obtain rfl : d = c := Option.some.inj hc
      have hd : isBlank d = true := List.all_eq_true.1 hblank d (by simp)
      rw [beq_eq_false_iff_ne]
      rintro rfl
      cases hd
    have hsplit : u ++ ';' :: (w ++ s) = (u ++ ';' :: w) ++ s := by simp
    rw [hsplit, dropEnd_append fun c hc => beq_iff_eq.2 (hall c hc), dropEnd_eq_self hlast]
  have htag : trim (u ++ ';' :: w) = u ++ [';'] := by
    have hsplit : u ++ ';' :: w = (u ++ [';']) ++ w := by simp
    rw [hsplit, trim_append_right hblank]
    refine trim_eq_self ?_ ?_
    · intro c hc
      have hhead : piece.trim.head? = some c := by
        rw [htrim]
        cases u with
        | nil => exact hc
        | cons d u => exact hc
      exact isBlank_of_head?_trim hhead
    · intro c hc
      rw [List.getLast?_concat] at hc
      obtain rfl : ';' = c := Option.some.inj hc
      decide
  refine ⟨u ++ [';'], ?_, List.getLast?_concat⟩
  rw [tag?, htrim, hdrop, htag]
  exact if_neg (by simp)

theorem endsLoosely_of_tag? {piece t : Text} (h : tag? piece = some t) (hlast : t.getLast? = some ';') :
    EndsLoosely piece := by
  obtain ⟨s, hpiece, hall, hdrop⟩ := exists_append_of_dropEnd (· == ';') piece.trim
  obtain ⟨a, w, -, hw, ht⟩ := isPadded_trim (dropEnd (· == ';') piece.trim)
  have htag : (dropEnd (· == ';') piece.trim).trim = t := by
    rw [tag?] at h
    split at h
    · cases h
    · exact Option.some.inj h
  rw [htag] at ht
  obtain ⟨v, rfl⟩ := List.getLast?_eq_some_iff.1 hlast
  rw [ht] at hpiece hdrop
  refine ⟨a ++ v, w, s, by rw [hpiece]; simp, ?_, hw, ?_, fun c hc => by simpa using hall c hc⟩
  · -- Without blanks the text left would still end in a semicolon.
    rintro rfl
    have := hdrop ';' (by simp)
    simp at this
  · rintro rfl
    obtain ⟨x, d, rfl⟩ : ∃ x d, w = x ++ [d] := by
      refine (List.eq_nil_or_concat' w).resolve_left ?_
      rintro rfl
      have := hdrop ';' (by simp)
      simp at this
    -- Then the trimmed piece would end in a blank.
    have htwice := trim_trim piece
    rw [hpiece, List.append_nil, ← List.append_assoc] at htwice
    have hd := isBlank_last_of_trim_eq htwice
    rw [List.all_eq_true.1 hw d (by simp)] at hd
    cases hd

theorem isField_tags {text : Text} (hbreak : '\n' ∉ text) : ∀ t ∈ tags text, IsField "|\n" t := by
  intro t ht
  obtain ⟨piece, hpiece, hread⟩ := List.mem_filterMap.1 ht
  rw [tag?] at hread
  split at hread
  · cases hread
  · rename_i hne
    obtain rfl := Option.some.inj hread
    refine isField_trim hne ?_
    intro c hc hmem
    have hcases : c = '|' ∨ c = '\n' := by simpa using hc
    obtain ⟨htext, hmark⟩ := mem_of_mem_splitOn hpiece (mem_of_mem_trim (mem_of_mem_dropEnd hmem))
    rcases hcases with rfl | rfl
    · exact hmark rfl
    · exact hbreak htext

theorem forall_tags_iff (text : Text) :
    (∀ t ∈ tags text, t.getLast? ≠ some ';') ↔ ∀ piece ∈ text.splitOn '|', ¬ EndsLoosely piece := by
  constructor
  · intro h piece hpiece hloose
    obtain ⟨t, ht, hlast⟩ := tag?_of_endsLoosely hloose
    exact h t (List.mem_filterMap.2 ⟨piece, hpiece, ht⟩) hlast
  · intro h t ht hlast
    obtain ⟨piece, hpiece, hread⟩ := List.mem_filterMap.1 ht
    exact h piece hpiece (endsLoosely_of_tag? hread hlast)

end Reader

theorem SourceBlock.not_mem_unionText {b : SourceBlock} (h : ∀ l ∈ b.lines, '\n' ∉ l.text) :
    '\n' ∉ b.unionText := by
  refine Text.not_mem_getD_isPrefixOf? (Text.not_mem_intercalate (by decide) ?_)
  intro t ht
  obtain ⟨line, hline, rfl⟩ := List.mem_map.1 ht
  exact fun hc => h line hline (Text.mem_of_mem_trim hc)

/-- A union that was read is read again as a union of the same name, whose tags are the same if and only if
the semicolons at the end of each tag stood together in the source. -/
theorem readProgram_union_of_read {source previous : Text} {program : Program}
    (h : readProgram source previous = .ok program) :
    ∃ blocks, Scan (Line.ofSource source) blocks none ∧
      List.Forall₂ (fun b c => b.construct (.ofText previous) = .ok c ∧
        ∀ name tags, c = .union name tags →
          ∃ before rest : Text,
            b.unionText = before ++ '=' :: rest ∧ '=' ∉ before ∧ before.trim = name ∧
            (∀ t ∈ tags, Text.trim t = t ∧ t ≠ [] ∧ '|' ∉ t) ∧
            (∀ other, readProgram ("union " ++ printUnion name tags) other =
              .ok [.union name (tags.filterMap Reader.tag?)]) ∧
            (tags.filterMap Reader.tag? = tags ↔ ∀ t ∈ tags, t.getLast? ≠ some ';') ∧
            (tags.filterMap Reader.tag? = tags ↔
              ∀ piece ∈ rest.splitOn '|', ¬ Reader.EndsLoosely piece)) blocks program := by
  obtain ⟨blocks, hscan, hblocks⟩ := exists_blocks_of_read h
  refine ⟨blocks, hscan, hblocks.imp fun b c hbc => ⟨hbc.2, ?_⟩⟩
  rintro name tags rfl
  obtain ⟨hfrom, hconstruct⟩ := hbc
  have hbreak : '\n' ∉ b.unionText := SourceBlock.not_mem_unionText fun l hl =>
    Line.not_mem_of_mem_ofSource (hfrom.subset hl)
  rcases SourceBlock.construct_cases hconstruct with
    ⟨stub, -, hstub⟩ | ⟨before, rest, htext, hmem, hname, hunion⟩ | ⟨body, hbody⟩ | ⟨names, hnames⟩
  · cases hstub
  · cases hunion
    rw [htext, List.mem_append, List.mem_cons, not_or, not_or] at hbreak
    have hfields := Reader.isField_tags hbreak.2.2
    have hfield : Text.IsField "=\n" before.trim := by
      refine Text.isField_trim hname ?_
      intro c hc
      have hcases : c = '=' ∨ c = '\n' := by simpa using hc
      rcases hcases with rfl | rfl
      · exact hmem
      · exact hbreak.1
    refine ⟨before, rest, htext, hmem, rfl, ?_, fun other => ?_, ?_, ?_⟩
    · intro t ht
      exact ⟨(hfields t ht).trim_eq, (hfields t ht).ne_nil, (hfields t ht).not_mem '|' (by decide)⟩
    · exact (Construct.isReadAs_union hfield hfields (.ofText other)).readProgram_eq
    · exact Reader.filterMap_tag?_eq_self_iff hfields
    · rw [Reader.filterMap_tag?_eq_self_iff hfields, Reader.forall_tags_iff]
  · cases hbody
  · cases hnames

/-- One semicolon behind a tag, with a blank between, and two at the end of the declaration. -/
theorem readProgram_union_of_read_of_three_lines :
    let source := Text.unlines ["union type  Shade =", "  | Red ; |", "  | Green;;"]
    let shade : Construct := .union "Shade" ["Red", "Green"]
    readProgram source [] = .ok [shade] ∧
      readProgram ("union " ++ printUnion "Shade" ["Red", "Green"]) [] = .ok [shade] := by
  intro source shade
  have hread : readProgram source [] = .ok [shade] := by decide +kernel
  obtain ⟨blocks, -, hblocks⟩ := readProgram_union_of_read hread
  cases hblocks with
  | cons hunion hrest =>
    obtain ⟨before, rest, -, -, -, -, hagain, hsame, -⟩ := hunion.2 "Shade" ["Red", "Green"] rfl
    have hall : ∀ t ∈ (["Red", "Green"] : List Text), t.getLast? ≠ some ';' := by decide
    rw [hsame.2 hall] at hagain
    exact ⟨hread, hagain []⟩

/-- The second semicolon is kept in the tag, and is not there when the union is read again. -/
theorem union_with_loose_end_changes :
    let source : Text := "union type Shade = Red | Green ; ;"
    readProgram source [] = .ok [.union "Shade" ["Red", "Green ;"]] ∧
      readProgram ("union " ++ printUnion "Shade" ["Red", "Green ;"]) [] =
        .ok [.union "Shade" ["Red", "Green"]] := by
  decide +kernel

end StubCompiler
