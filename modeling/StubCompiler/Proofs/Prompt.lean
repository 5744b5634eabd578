import StubCompiler.Proofs.Layout
import StubCompiler.Proofs.RoundTrip

/-!
# What the prompt keeps of a header

The service does not see the header as it stands in the source.  The header is taken apart and printed
again: its arguments are cut at every comma, also at those inside a type, each is cut at its first colon,
and all parts are trimmed.  Blanks aside, the printed header has the characters of the header in the
source, all of them and in their order (`Header.signature_withoutBlanks`).
-/

namespace StubCompiler

/-! ### Characters that are kept -/

namespace Text

def withoutBlanks (t : Text) : Text := t.filter fun c => !isBlank c

theorem not_isBlank_eq_false (c : Char) (h : isBlank c = true) : (!isBlank c) = false := by
  rw [h]
  rfl

theorem trim_ne_nil {t : Text} (h : t.isBlankText = false) : t.trim ≠ [] := by
  intro hnil
  rw [(trim_eq_nil_iff t).1 hnil] at h
  cases h

theorem filter_intercalate (p : Char → Bool) (sep : Text) (ts : List Text) :
    (List.intercalate sep ts).filter p = List.intercalate (sep.filter p) (ts.map (List.filter p)) := by
  induction ts with
  | nil => simp
  | cons t ts ih =>
    cases ts with
    | nil => simp
    | cons u us =>
      rw [List.map_cons] at ih
      simp only [List.intercalate_cons_cons, List.filter_append, List.map_cons, ih]

theorem intercalate_nil_left (ts : List Text) : List.intercalate [] ts = ts.flatten := by
  induction ts with
  | nil => rfl
  | cons t ts ih =>
    cases ts with
    | nil => simp
    | cons u us => simpa [List.intercalate_cons_cons] using ih

section
variable {p : Char → Bool} (hp : ∀ c, isBlank c = true → p c = false)
include hp

theorem filter_eq_nil_of_isBlankText {t : Text} (h : t.isBlankText = true) : t.filter p = [] := by
  rw [List.filter_eq_nil_iff]
  intro c hc
  rw [hp c (List.all_eq_true.1 h c hc)]
  exact Bool.false_ne_true

theorem filter_trim (t : Text) : t.trim.filter p = t.filter p := by
  obtain ⟨a, b, ha, hb, ht⟩ := isPadded_trim t
  have hsplit := congrArg (List.filter p) ht
  rw [List.filter_append, List.filter_append, filter_eq_nil_of_isBlankText hp ha,
    filter_eq_nil_of_isBlankText hp hb, List.append_nil, List.nil_append] at hsplit
  exact hsplit.symm

end

theorem cutAt?_getD (mark : Char) (t : Text) :
    (cutAt? mark t).getD (t, []) =
      (t.takeWhile (· != mark), (t.dropWhile (· != mark)).tail) := by
  induction t with
  | nil => rfl
  | cons c t ih =>
    by_cases hc : c = mark
    · simp [cutAt?, hc]
    · have htake : (c :: t).takeWhile (· != mark) = c :: t.takeWhile (· != mark) :=
        List.takeWhile_cons_of_pos (by simpa using hc)
      have hdrop : (c :: t).dropWhile (· != mark) = t.dropWhile (· != mark) :=
        List.dropWhile_cons_of_pos (by simpa using hc)
      rw [cutAt?, if_neg hc, htake, hdrop]
      cases hcut : cutAt? mark t with
      | none =>
        rw [hcut, Option.getD_none, Prod.mk.injEq] at ih
        exact Prod.ext (congrArg (c :: ·) ih.1) ih.2
      | some parts =>
        rw [hcut, Option.getD_some] at ih
        rw [ih]
        rfl

end Text

/-! ### Arguments -/

namespace Header

open Text

/-- The text before the first colon of a piece, all of it if there is none. -/
def pieceName (piece : Text) : Text := piece.takeWhile (· != ':')

def pieceType (piece : Text) : Text := (piece.dropWhile (· != ':')).tail

def pieceArgument (piece : Text) : Argument := ⟨(pieceName piece).trim, (pieceType piece).trim⟩

theorem argument?_eq (piece : Text) :
    argument? piece = if (pieceName piece).isBlankText then none else some (pieceArgument piece) := by
  rw [argument?, cutAt?_getD]
  dsimp only
  rw [← pieceName, ← pieceType]
  simp only [trim_eq_nil_iff, pieceArgument]

theorem piece_eq_of_mem {piece : Text} (h : ':' ∈ piece) :
    piece = pieceName piece ++ ':' :: pieceType piece := by
  obtain ⟨before, after, hcut⟩ : ∃ before after, cutAt? ':' piece = some (before, after) := by
    cases hcut : cutAt? ':' piece with
    | none => exact absurd h (cutAt?_eq_none_iff.1 hcut)
    | some parts => exact ⟨parts.1, parts.2, rfl⟩
  have hparts := cutAt?_getD ':' piece
  rw [hcut, Option.getD_some, Prod.mk.injEq] at hparts
  rw [pieceName, pieceType, ← hparts.1, ← hparts.2]
  exact eq_of_cutAt? hcut

theorem piece_eq_of_not_mem {piece : Text} (h : ':' ∉ piece) :
    pieceName piece = piece ∧ pieceType piece = [] := by
  have hparts := cutAt?_getD ':' piece
  rw [cutAt?_eq_none_iff.2 h, Option.getD_none, Prod.mk.injEq] at hparts
  exact ⟨hparts.1.symm, hparts.2.symm⟩

section
variable {p : Char → Bool} (hp : ∀ c, isBlank c = true → p c = false)
include hp

/-- An argument is printed with the characters of its piece; the colon is left out if no type comes
behind it. -/
theorem filter_print {piece : Text}
    (hcolon : p ':' = true → ':' ∈ piece → (pieceType piece).isBlankText = false) :
    (pieceArgument piece).print.filter p = piece.filter p := by
  by_cases hmem : ':' ∈ piece
  · have hpiece := congrArg (List.filter p) (piece_eq_of_mem hmem)
    rw [List.filter_append, List.filter_cons] at hpiece
    cases hblank : (pieceType piece).isBlankText with
    | true =>
      have htype : (pieceType piece).trim = [] := (trim_eq_nil_iff _).2 hblank
      have hskip : ¬ p ':' = true := by
        intro hkeep
        rw [hcolon hkeep hmem] at hblank
        exact Bool.false_ne_true hblank
      rw [Argument.print, pieceArgument, htype, if_pos rfl, filter_trim hp, hpiece, if_neg hskip,
        filter_eq_nil_of_isBlankText hp hblank, List.append_nil]
    | false =>
      have htype : (pieceType piece).trim ≠ [] := trim_ne_nil hblank
      have hspace : p ' ' = false := hp ' ' (by decide)
      have hmark : (": " : Text).filter p = if p ':' then [':'] else [] := by
        cases hc : p ':' <;> simp [hspace, hc]
      rw [Argument.print, pieceArgument, if_neg htype, hpiece, List.filter_append, List.filter_append,
        filter_trim hp, filter_trim hp, hmark]
      split <;> simp
  · obtain ⟨hname, htype⟩ := piece_eq_of_not_mem hmem
    rw [Argument.print, pieceArgument, htype, trim_nil, if_pos rfl, hname, filter_trim hp]

theorem filter_separator : (", " : Text).filter p = ([','] : Text).filter p := by
  have hspace : p ' ' = false := hp ' ' (by decide)
  cases hc : p ',' <;> simp [hspace, hc]

/-- A list is printed with its characters if each of its pieces is an argument. -/
theorem filter_arguments_of_all {list : Text}
    (hname : ∀ piece ∈ list.splitOn ',', (pieceName piece).isBlankText = false)
    (htype : ∀ piece ∈ list.splitOn ',', ':' ∈ piece → (pieceType piece).isBlankText = false) :
    (List.intercalate ", " ((arguments list).map Argument.print)).filter p = list.filter p := by
  have hall : arguments list = (list.splitOn ',').map pieceArgument := by
    refine List.filterMap_eq_map_iff_forall_eq_some.2 fun piece hpiece => ?_
    rw [argument?_eq, hname piece hpiece]
    rfl
  have hpieces : ((arguments list).map Argument.print).map (List.filter p) =
      (list.splitOn ',').map (List.filter p) := by
    rw [hall, List.map_map, List.map_map]
    exact List.map_congr_left fun piece hpiece => filter_print hp fun _ => htype piece hpiece
  have hlist : List.intercalate [','] (list.splitOn ',') = list := List.intercalate_splitOn ','
  rw [filter_intercalate, filter_separator hp, hpieces, ← filter_intercalate, hlist]

/-- A list is printed with its characters if neither the commas count nor what stands in pieces without
a name. -/
theorem filter_arguments_of_dropped {list : Text} (hcomma : p ',' = false) (hcolon : p ':' = false)
    (h : ∀ piece ∈ list.splitOn ',', (pieceName piece).isBlankText = true → piece.filter p = []) :
    (List.intercalate ", " ((arguments list).map Argument.print)).filter p = list.filter p := by
  have hpieces : ∀ pieces : List Text,
      (∀ piece ∈ pieces, (pieceName piece).isBlankText = true → piece.filter p = []) →
      (((pieces.filterMap argument?).map Argument.print).map (List.filter p)).flatten =
        (pieces.map (List.filter p)).flatten := by
    intro pieces hdropped
    induction pieces with
    | nil => rfl
    | cons piece pieces ih =>
      have hrest := ih fun other hother => hdropped other (List.mem_cons_of_mem piece hother)
      cases hblank : (pieceName piece).isBlankText with
      | true =>
        have hnone : argument? piece = none := by rw [argument?_eq, hblank]; rfl
        rw [List.filterMap_cons_none hnone, hrest, List.map_cons, List.flatten_cons,
          hdropped piece (by simp) hblank, List.nil_append]
      | false =>
        have hsome : argument? piece = some (pieceArgument piece) := by rw [argument?_eq, hblank]; rfl
        have hprint : (pieceArgument piece).print.filter p = piece.filter p :=
          filter_print hp fun hkeep => by rw [hcolon] at hkeep; cases hkeep
        rw [List.filterMap_cons_some hsome, List.map_cons, List.map_cons, List.map_cons,
          List.flatten_cons, List.flatten_cons, hrest, hprint]
  have hsep : ([','] : Text).filter p = [] := by simp [hcomma]
  have hlist : List.intercalate [','] (list.splitOn ',') = list := List.intercalate_splitOn ','
  have hown := congrArg (List.filter p) hlist
  rw [filter_intercalate, hsep, intercalate_nil_left] at hown
  rw [filter_intercalate, filter_separator hp, hsep, intercalate_nil_left, arguments, hpieces _ h, hown]

end

/-! ### Headers put together from their parts -/

/-- A header as it is written, with these texts at the places of its parts. -/
def ofParts (name list type : Text) : Text :=
  keyword ++ name ++ "(" ++ list ++ "): " ++ type ++ " \x7b"

/-- The parts can be told apart in a header, and nothing is missing in them: every argument has a name, and
a type if it has a colon. -/
structure IsComplete (name list type : Text) : Prop where
  name_not_blank : name.isBlankText = false
  name_not_mem : '(' ∉ name
  balanced : list.IsBalanced
  arguments : list.isBlankText = true ∨ ∀ piece ∈ list.splitOn ',',
    (pieceName piece).isBlankText = false ∧ (':' ∈ piece → (pieceType piece).isBlankText = false)
  type_not_blank : type.isBlankText = false

/-- The keyword is the first one if no letter of it stands before it. -/
theorem opens_ofParts {before name : Text} (hbefore : 'f' ∉ before) (hname : '(' ∉ name)
    (list type tail : Text) :
    Opens (before ++ ofParts name list type ++ tail) before name
      (list ++ ')' :: (": " ++ (type ++ " \x7b") ++ tail)) := by
  have hopen : ("(" : Text) = ['('] := rfl
  have hclose : ("): " : Text) = ')' :: (": " : Text) := rfl
  refine ⟨?_, ?_, hname⟩
  · simp [ofParts, hopen, hclose]
  · intro u v huv
    have hkey : keyword = 'f' :: ("unction " : Text) := rfl
    rw [hkey, List.append_assoc, List.append_assoc, List.cons_append] at huv
    obtain ⟨z, -, rfl⟩ := exists_of_append_eq_right hbefore huv
    simp

theorem returnType_of_brace {type tail : Text} (htype : type.isBlankText = false)
    (htail : tail.isBlankText = true) : returnType (": " ++ (type ++ " \x7b") ++ tail) = type.trim := by
  have hbrace : (" \x7b" : Text) ≠ [] := by decide
  rw [returnType_pad htail, returnType, isPrefixOf?_append, Option.bind_some, cutLast?_append hbrace]
  exact if_neg (trim_ne_nil htype)

theorem stub_ofParts {name list type : Text} (h : IsComplete name list type) {before tail : Text}
    (hbefore : 'f' ∉ before) (htail : tail.isBlankText = true) {header : Line}
    (hheader : header.text = before ++ ofParts name list type ++ tail) (body : List Line) :
    stub header body = .ok ⟨name.trim, Header.arguments list, type.trim, comment body⟩ := by
  have hopens := opens_ofParts hbefore h.name_not_mem list type tail
  rw [← hheader] at hopens
  have hname : name? header.text = some name.trim :=
    name?_eq_some_iff.2 ⟨before, name, _, hopens, rfl, trim_ne_nil h.name_not_blank⟩
  have hlist : argumentList? header.text =
      some ⟨before ++ keyword ++ name, list, ": " ++ (type ++ " \x7b") ++ tail⟩ :=
    argumentList?_eq_some_iff.2 ⟨before, name, hopens, h.balanced, rfl⟩
  rw [stub, hname]
  dsimp only
  rw [hlist]
  dsimp only
  rw [returnType_of_brace h.type_not_blank htail]

theorem withoutBlanks_arguments {name list type : Text} (h : IsComplete name list type) :
    Text.withoutBlanks (List.intercalate ", " ((Header.arguments list).map Argument.print)) =
      list.withoutBlanks := by
  rcases h.arguments with hlist | hpieces
  · -- A blank list is one piece without a name.
    have hcomma : ',' ∉ list := not_mem_of_isBlankText (by decide) hlist
    have hcolon : ':' ∉ list := not_mem_of_isBlankText (by decide) hlist
    have hnone : argument? list = none := by
      rw [argument?_eq, (piece_eq_of_not_mem hcolon).1, hlist]
      rfl
    rw [Header.arguments, List.splitOn_eq_singleton hcomma, List.filterMap_cons_none hnone]
    exact (filter_eq_nil_of_isBlankText not_isBlank_eq_false hlist).symm
  · exact filter_arguments_of_all not_isBlank_eq_false (fun piece hpiece => (hpieces piece hpiece).1)
      fun piece hpiece => (hpieces piece hpiece).2

/-- Nothing but blanks is lost between a header in the source and the header in the prompt, whatever the
types in it look like; `before` is the indentation and the word in front of a pinned function. -/
theorem signature_withoutBlanks {name list type : Text} (h : IsComplete name list type)
    {indent pin tail : Text} (hindent : indent.isBlankText = true) (hpin : pin = [] ∨ pin = "pinned ")
    (htail : tail.isBlankText = true) {header : Line}
    (hheader : header.text = indent ++ pin ++ ofParts name list type ++ tail) (body : List Line) :
    ∃ s, stub header body = .ok s ∧
      s.signature.withoutBlanks = (ofParts name list type).withoutBlanks := by
  have hindent' : 'f' ∉ indent := not_mem_of_isBlankText (by decide) hindent
  have hbefore : 'f' ∉ indent ++ pin := by
    rcases hpin with rfl | rfl
    · simpa using hindent'
    · rw [List.mem_append, not_or]
      exact ⟨hindent', by decide⟩
  have hargs := withoutBlanks_arguments h
  refine ⟨_, stub_ofParts h hbefore htail hheader body, ?_⟩
  unfold Stub.signature ofParts
  dsimp only
  rw [if_neg (trim_ne_nil h.type_not_blank)]
  simp only [withoutBlanks, List.filter_append] at hargs ⊢
  rw [filter_trim not_isBlank_eq_false, filter_trim not_isBlank_eq_false, hargs]
  rfl

theorem signature_withoutBlanks_of_nested_types :
    let name : Text := " apply "
    let list : Text := "f: (x: Map<string,User>) => A, n"
    let type : Text := "(y: B) => C"
    let header : Line := ⟨1, 0, "\t" ++ "pinned " ++ ofParts name list type ++ "\r"⟩
    IsComplete name list type ∧ ∃ s, stub header [] = .ok s ∧
      s.signature.withoutBlanks = "functionapply(f:(x:Map<string,User>)=>A,n):(y:B)=>C\x7b" := by
  intro name list type header
  have hcomplete : IsComplete name list type :=
    { name_not_blank := by decide
      name_not_mem := by decide
      balanced := by decide
      arguments := Or.inr (by decide)
      type_not_blank := by decide }
  have hindent : Text.isBlankText "\t" = true := by decide
  have htail : Text.isBlankText "\r" = true := by decide
  have hheader : header.text = "\t" ++ "pinned " ++ ofParts name list type ++ "\r" := rfl
  obtain ⟨s, hstub, hsame⟩ :=
    signature_withoutBlanks hcomplete hindent (Or.inr rfl) htail hheader []
  exact ⟨hcomplete, s, hstub, hsame.trans (by decide)⟩

end Header

end StubCompiler
