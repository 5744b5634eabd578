import StubCompiler.Proofs.Location
import StubCompiler.Proofs.Matching

/-!
# The lines of a source

A source that was cut into lines is still there as a whole.  The lines stand one behind the other with
one break between two of them, and the span of each one holds its text, in characters and in bytes.
These laws leave no choice: any lines that fulfil them are the lines of the source.  Behind another
source the same lines follow, further down.
-/

namespace StubCompiler

/-! ### Places in the bytes of a text -/

namespace Text

/-- The place is between two characters, or at one of the ends. -/
def IsBoundary (t : Text) (n : Nat) : Prop := String.Pos.Raw.IsValid (String.ofList t) ⟨n⟩

theorem size_utf8Encode (t : Text) : t.utf8Encode.size = t.byteLength :=
  (byteLength_eq_utf8ByteSize t).symm

theorem isBoundary_byteLength (s t : Text) : (s ++ t).IsBoundary s.byteLength := by
  unfold IsBoundary
  rw [String.Pos.Raw.isValid_iff_exists_append]
  refine ⟨String.ofList s, String.ofList t, String.ofList_append, ?_⟩
  rw [byteLength_eq_utf8ByteSize]
  rfl

theorem extract_utf8Encode (s t u : Text) :
    (s ++ (t ++ u)).utf8Encode.extract s.byteLength (s.byteLength + t.byteLength) = t.utf8Encode := by
  -- The bytes of `s` go away on the left, those of `u` on the right.
  have hfront := ByteArray.extract_append_size_add (a := s.utf8Encode) (b := (t ++ u).utf8Encode)
    (i := 0) (j := t.byteLength)
  rw [← List.utf8Encode_append, size_utf8Encode, Nat.add_zero] at hfront
  rw [hfront, List.utf8Encode_append]
  exact ByteArray.extract_append_eq_left (size_utf8Encode t).symm

/-- A text has one line more than it has breaks. -/
theorem length_lines (t : Text) : t.lines.length = t.count '\n' + 1 := by
  have hne : t.lines ≠ [] := List.splitOn_ne_nil '\n' t
  have hcount : (terminated t.lines).count '\n' = t.lines.length :=
    count_terminated fun _ hu => not_mem_of_mem_lines hu
  rw [terminated_eq hne, unlines_lines, List.count_append] at hcount
  exact hcount.symm

end Text

namespace Line

/-- The line stands in the source where its span says: at both ends of the span the source can be cut,
and what is between them is the text of the line. -/
structure StandsIn (line : Line) (source : Text) : Prop where
  start_isBoundary : source.IsBoundary line.span.start
  stop_isBoundary : source.IsBoundary line.span.stop
  slice?_eq : source.slice? line.span.start line.span.stop = some line.text
  extract_eq : source.utf8Encode.extract line.span.start line.span.stop = line.text.utf8Encode

theorem IsAt.standsIn {line : Line} {source before after : Text} (h : line.IsAt source before after) :
    line.StandsIn source := by
  have hstart : line.span.start = before.byteLength := by rw [h.span_eq]
  have hstop : line.span.stop = before.byteLength + line.text.byteLength := by
    rw [h.span_eq, Text.byteLength_append]
  have hsource : source = before ++ (line.text ++ after) := by rw [h.source_eq, List.append_assoc]
  refine ⟨?_, ?_, ?_, ?_⟩
  · rw [hstart, hsource]
    exact Text.isBoundary_byteLength before _
  · rw [hstop, ← Text.byteLength_append, h.source_eq]
    exact Text.isBoundary_byteLength (before ++ line.text) after
  · rw [hstart, hstop, hsource]
    exact Text.slice?_byteLength before line.text after
  · rw [hstart, hstop, hsource]
    exact Text.extract_utf8Encode before line.text after

/-! ### Lines one behind the other -/

/-- Between the two lines is one break, which takes one byte. -/
def Meets (line next : Line) : Prop := next.span.start = line.span.stop + 1

theorem length_consecutive (first start : Nat) (ts : List Text) :
    (consecutive first start ts).length = ts.length := by
  rw [← List.length_map, map_text_consecutive]

theorem number_of_getElem?_consecutive {first start i : Nat} {ts : List Text} {line : Line}
    (h : (consecutive first start ts)[i]? = some line) : line.number = first + i := by
  induction ts generalizing first start i with
  | nil => simp [consecutive] at h
  | cons t ts ih =>
    cases i with
    | zero =>
      obtain rfl : ⟨first, start, t⟩ = line := by simpa [consecutive] using h
      rfl
    | succ i =>
      have hrest : line.number = first + 1 + i := ih (by simpa [consecutive] using h)
      omega

theorem isChain_consecutive (first start : Nat) (ts : List Text) :
    (consecutive first start ts).IsChain Meets := by
  induction ts generalizing first start with
  | nil => exact .nil
  | cons t ts ih =>
    have hrest := ih (first + 1) (start + t.byteLength + 1)
    cases ts with
    | nil => exact .singleton _
    | cons u us => exact .cons_cons rfl hrest

theorem stop_of_getLast?_consecutive {first start : Nat} {ts : List Text} {line : Line}
    (h : (consecutive first start ts).getLast? = some line) :
    line.span.stop + 1 = start + Text.lineBytes ts := by
  induction ts generalizing first start with
  | nil => simp [consecutive] at h
  | cons t ts ih =>
    cases ts with
    | nil =>
      obtain rfl : ⟨first, start, t⟩ = line := by simpa [consecutive] using h
      simp only [span, Text.lineBytes]
      omega
    | cons u us =>
      have hbytes : Text.lineBytes (t :: u :: us) =
        t.byteLength + 1 + Text.lineBytes (u :: us) := rfl
      have hrest := ih h
      omega

/-- The numbers and the places of lines that meet follow from those of the first one. -/
theorem eq_consecutive {lines : List Line} {first start : Nat}
    (hnumber : ∀ i line, lines[i]? = some line → line.number = first + i)
    (hstart : ∀ line, lines.head? = some line → line.span.start = start)
    (hchain : lines.IsChain Meets) : lines = consecutive first start (lines.map text) := by
  induction lines generalizing first start with
  | nil => rfl
  | cons line lines ih =>
    obtain rfl : line.number = first := hnumber 0 line rfl
    obtain rfl : line.span.start = start := hstart line rfl
    -- The rest begins one number further, and, as the first two lines meet, one byte behind this line.
    have hrest : lines = consecutive (line.number + 1) (line.span.stop + 1) (lines.map text) := by
      apply ih
      · intro i next hnext
        have hi := hnumber (i + 1) next hnext
        omega
      · intro next hnext
        cases lines with
        | nil => cases hnext
        | cons second lines =>
          obtain rfl : second = next := Option.some.inj hnext
          exact (List.isChain_cons_cons.1 hchain).1
      · exact hchain.of_cons
    rw [List.map_cons, consecutive]
    exact congrArg (line :: ·) hrest

/-! ### All lines of a source -/

/-- The lines make up the source: they are cut at its breaks and nowhere else, nothing is lost, and
numbers and spans are exact. -/
structure MakeUp (lines : List Line) (source : Text) : Prop where
  unlines_eq : unlines lines = source
  length_eq : lines.length = source.count '\n' + 1
  not_mem : ∀ line ∈ lines, '\n' ∉ line.text
  number_eq : ∀ i line, lines[i]? = some line → line.number = i + 1
  start_eq : lines.head?.map (·.span.start) = some 0
  isChain : lines.IsChain Meets
  stop_eq : lines.getLast?.map (·.span.stop) = some source.byteLength
  standsIn : ∀ line ∈ lines, line.StandsIn source

theorem makeUp_ofSource (source : Text) : MakeUp (ofSource source) source := by
  have hlength : (ofSource source).length = source.count '\n' + 1 := by
    rw [ofSource, length_consecutive, Text.length_lines]
  refine ⟨unlines_ofSource source, hlength, fun _ h => not_mem_of_mem_ofSource h, ?_, ?_,
    isChain_consecutive 1 0 source.lines, ?_, ?_⟩
  · intro i line h
    rw [number_of_getElem?_consecutive h, Nat.add_comm]
  · rw [ofSource] at hlength ⊢
    cases hlines : source.lines with
    | nil =>
      rw [hlines] at hlength
      cases hlength
    | cons t ts => rfl
  · have hne : ofSource source ≠ [] := List.length_pos_iff.1 (by omega)
    have hlast := List.getLast?_eq_some_getLast hne
    have hstop := stop_of_getLast?_consecutive hlast
    rw [Text.lineBytes_lines] at hstop
    rw [hlast, Option.map_some, Option.some.injEq]
    omega
  · intro line h
    obtain ⟨before, after, hat⟩ := isIn_of_mem_ofSource h
    exact hat.standsIn

theorem MakeUp.eq_ofSource {lines : List Line} {source : Text} (h : MakeUp lines source) :
    lines = ofSource source := by
  have hne : lines ≠ [] := by
    rintro rfl
    cases h.start_eq
  have htexts : source.lines = lines.map text := by
    rw [← h.unlines_eq]
    exact Text.lines_unlines_map h.not_mem hne
  rw [ofSource, htexts]
  apply eq_consecutive _ _ h.isChain
  · intro i line hline
    rw [h.number_eq i line hline, Nat.add_comm]
  · intro line hline
    have hstart := h.start_eq
    rw [hline] at hstart
    exact Option.some.inj hstart

/-- The same line in a longer source: `lines` more lines and `bytes` more bytes stand before it. -/
structure IsFurtherDown (lines bytes : Nat) (line moved : Line) : Prop where
  text_eq : moved.text = line.text
  kind_eq : moved.kind = line.kind
  number_eq : moved.number = line.number + lines
  span_eq : moved.span = ⟨line.span.start + bytes, line.span.stop + bytes⟩

theorem isFurtherDown_shift (m n : Nat) (line : Line) : IsFurtherDown m n line (line.shift m n) :=
  ⟨rfl, rfl, rfl, span_shift m n line⟩

/-- Cutting a source into lines loses nothing, and all positions are exact: the lines of the source make
it up, and no others do.  With a line break between two sources, the lines of the second one come
unchanged behind those of the first. -/
theorem ofSource_lossless (source : Text) :
    (∀ lines, MakeUp lines source ↔ lines = ofSource source) ∧
      ∀ more, ∃ moved, ofSource (source ++ '\n' :: more) = ofSource source ++ moved ∧
        List.Forall₂ (IsFurtherDown (ofSource source).length (source.byteLength + 1))
          (ofSource more) moved := by
  constructor
  · intro lines
    constructor
    · exact MakeUp.eq_ofSource
    · rintro rfl
      exact makeUp_ofSource source
  · intro more
    have hlength : (ofSource source).length = source.lines.length := length_consecutive 1 0 _
    refine ⟨_, ofSource_append source more, ?_⟩
    rw [hlength, List.forall₂_map_right_iff, List.forall₂_same]
    exact fun line _ => isFurtherDown_shift _ _ line

example : ofSource "é\r\n\n\x7d" = [⟨1, 0, "é\r"⟩, ⟨2, 4, ""⟩, ⟨3, 5, "\x7d"⟩] := by decide

end Line

end StubCompiler
