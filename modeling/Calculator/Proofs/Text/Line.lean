/-
# Calculator.Proofs.Text.Line — texts as lines of input

What is typed is a text, and what is read is the bytes that encode it.  Lines are cut out of the bytes
before these are decoded, and that is sound because a byte below 128 never is a part of a longer
character: the bytes of a text have a line feed in them only where the text has one
(`lineFeed_notMem_encode`), and a text that is decoded from a line has none (`isLine_of_decode?`).

So a text without a line feed, with one behind it, is one line of input, and this decodes to the text
again, with one exception: a carriage return at the end of the text is taken for a part of the end of
the line (`lines_encode_line`).  It is a blank, so what the line asks for is the same
(`trim_withoutReturn`).

Input that is closed by the end of a line may be cut there: its lines are lines of any longer input,
and what comes behind it has its own (`lines_append`).
-/

import Calculator.Proofs.Text.Trim
import Calculator.Text.Line

namespace Calculator.Text

/-! ## Bytes of a text -/

/-- The bytes of a text in UTF-8. -/
def encode (text : String) : List UInt8 :=
  text.toUTF8.data.toList

theorem encode_eq (text : String) : encode text = text.toList.flatMap String.utf8EncodeChar := by
  rw [encode, String.toUTF8_eq_toByteArray, ← String.utf8Encode_toList, List.utf8Encode,
    List.data_toByteArray]

theorem encode_append (text more : String) :
    encode (text ++ more) = encode text ++ encode more := by
  rw [encode_eq, encode_eq, encode_eq, String.toList_append, List.flatMap_append]

theorem decode?_encode (text : String) : decode? (encode text) = some text := by
  unfold decode? encode
  rw [Array.toArray_toList, String.fromUTF8?]
  exact dif_pos text.isValidUTF8

/-- A byte below 128 encodes the character with that code point, and is in no other. -/
theorem toNat_of_mem_utf8EncodeChar {c : Char} {byte : UInt8}
    (mem : byte ∈ String.utf8EncodeChar c) (low : byte.toNat < 0x80) : c.toNat = byte.toNat := by
  have code : c.val.toNat = c.toNat := rfl
  rw [String.utf8EncodeChar, code] at mem
  -- the bytes of a character that takes more than one have their highest bit set
  split at mem
  · rw [List.mem_singleton.mp mem, UInt8.toNat_ofNat']
    omega
  · split at mem
    · simp only [List.mem_cons, List.not_mem_nil, or_false] at mem
      rcases mem with rfl | rfl <;> rw [UInt8.toNat_ofNat'] at low <;> omega
    · split at mem <;> simp only [List.mem_cons, List.not_mem_nil, or_false] at mem
      · rcases mem with rfl | rfl | rfl <;> rw [UInt8.toNat_ofNat'] at low <;> omega
      · rcases mem with rfl | rfl | rfl | rfl <;> rw [UInt8.toNat_ofNat'] at low <;> omega

/-- **No line feed comes from encoding.** -/
theorem lineFeed_notMem_encode {text : String} (free : '\n' ∉ text.toList) :
    lineFeed ∉ encode text := by
  rw [encode_eq, List.mem_flatMap]
  rintro ⟨c, mem, inside⟩
  have same : c = '\n' := Char.toNat_inj.mp (toNat_of_mem_utf8EncodeChar inside (by decide))
  exact free (same ▸ mem)

/-! ## Texts on one line -/

/-- There is no line feed in the text. -/
def IsLine (text : String) : Prop := '\n' ∉ text.toList

instance : DecidablePred IsLine := fun text => inferInstanceAs (Decidable ('\n' ∉ text.toList))

theorem isLine_append {text more : String} : IsLine (text ++ more) ↔ IsLine text ∧ IsLine more := by
  simp [IsLine]

theorem isLine_ofList {cs : List Char} : IsLine (String.ofList cs) ↔ '\n' ∉ cs := by
  simp [IsLine]

theorem isLine_intercalate {separator : String} {texts : List String} (between : IsLine separator)
    (all : ∀ text ∈ texts, IsLine text) : IsLine (separator.intercalate texts) := by
  induction texts with
  | nil => rw [String.intercalate_nil]; decide
  | cons text texts ih =>
      obtain ⟨first, later⟩ := List.forall_mem_cons.mp all
      cases texts with
      | nil => rwa [String.intercalate_singleton]
      | cons next texts =>
          rw [String.intercalate_cons_cons, isLine_append, isLine_append]
          exact ⟨⟨first, between⟩, ih later⟩

/-- A text on one line stays on one line when it loses the blanks at its ends. -/
theorem IsLine.trim {text : String} (h : IsLine text) : IsLine (trim text) := by
  intro mem
  rw [toList_trim, trimChars_eq] at mem
  exact h ((List.dropWhile_suffix _).mem ((List.rdropWhile_prefix _ _).mem mem))

theorem encode_of_decode? {bytes : List UInt8} {text : String} (h : decode? bytes = some text) :
    encode text = bytes := by
  unfold decode? String.fromUTF8? at h
  split at h
  · rename_i valid
    rw [← Option.some.inj h]
    rfl
  · exact absurd h (by simp)

/-- **Bytes without a line feed decode to a text on one line.** -/
theorem isLine_of_decode? {bytes : List UInt8} {text : String} (h : decode? bytes = some text)
    (free : lineFeed ∉ bytes) : IsLine text := by
  intro mem
  have feed : String.utf8EncodeChar '\n' = [lineFeed] := by decide
  apply free
  rw [← encode_of_decode? h, encode_eq, List.mem_flatMap]
  exact ⟨'\n', mem, by rw [feed]; exact List.mem_singleton_self _⟩

/-! ## One line -/

theorem linesFrom_append {bytes : List UInt8} (free : lineFeed ∉ bytes) (line rest : List UInt8) :
    linesFrom line (bytes ++ rest) = linesFrom (bytes.reverse ++ line) rest := by
  induction bytes generalizing line with
  | nil => rfl
  | cons byte bytes ih =>
      obtain ⟨first, later⟩ := List.ne_and_not_mem_of_not_mem_cons free
      rw [List.cons_append, linesFrom, if_neg (Ne.symm first), ih later, List.reverse_cons,
        List.append_assoc, List.singleton_append]

/-- The first line is what stands in front of the first line feed. -/
theorem lines_append_lineFeed {bytes : List UInt8} (free : lineFeed ∉ bytes) (rest : List UInt8) :
    lines (bytes ++ lineFeed :: rest) = (dropReturn bytes.reverse).reverse :: lines rest := by
  rw [lines, linesFrom_append free, List.append_nil, linesFrom, if_pos rfl]
  rfl

/-- A text without a carriage return at its end. -/
def withoutReturn (text : String) : String :=
  if text.toList.getLast? = some '\r' then String.ofList text.toList.dropLast else text

theorem dropReturn_suffix (line : List UInt8) : dropReturn line <:+ line := by
  cases line with
  | nil => exact List.suffix_refl []
  | cons byte rest =>
      rw [dropReturn]
      split
      · exact List.suffix_cons byte rest
      · exact List.suffix_refl (byte :: rest)

theorem dropReturn_eq_self {line : List UInt8} (h : line.head? ≠ some carriageReturn) :
    dropReturn line = line := by
  cases line with
  | nil => rfl
  | cons byte rest =>
      have other : byte ≠ carriageReturn := fun same => h (congrArg some same)
      rw [dropReturn, if_neg other]

/-- A carriage return is lost from the bytes where it is lost from the text. -/
theorem reverse_dropReturn_encode (text : String) :
    (dropReturn (encode text).reverse).reverse = encode (withoutReturn text) := by
  unfold withoutReturn
  rcases List.eq_nil_or_concat' text.toList with none | ⟨front, c, split⟩
  · rw [if_neg (by simp [none]), encode_eq, none]
    rfl
  · have bytes : encode text = front.flatMap String.utf8EncodeChar ++ String.utf8EncodeChar c := by
      rw [encode_eq, split, List.flatMap_append, List.flatMap_singleton]
    rw [split, List.getLast?_concat, List.dropLast_concat]
    by_cases last : c = '\r'
    · have one : String.utf8EncodeChar '\r' = [carriageReturn] := by decide
      rw [if_pos (congrArg some last), bytes, last, one, List.reverse_concat, dropReturn, if_pos rfl,
        List.reverse_reverse, encode_eq, String.toList_ofList]
    · have kept : (encode text).getLast? ≠ some carriageReturn := by
        rw [bytes, List.getLast?_append_of_ne_nil _ String.utf8EncodeChar_ne_nil]
        intro same
        have inside := List.mem_of_getLast? same
        exact last (Char.toNat_inj.mp (toNat_of_mem_utf8EncodeChar inside (by decide)))
      rw [if_neg (fun same => last (Option.some.inj same)), dropReturn_eq_self,
        List.reverse_reverse]
      rwa [List.head?_reverse]

/-- **A text with a line feed behind it is one line**, up to a carriage return at its end. -/
theorem lines_encode_line {text : String} (free : '\n' ∉ text.toList) (rest : List UInt8) :
    lines (encode text ++ lineFeed :: rest) = encode (withoutReturn text) :: lines rest := by
  rw [lines_append_lineFeed (lineFeed_notMem_encode free), reverse_dropReturn_encode]

/-! ## Many lines -/

theorem lineFeed_notMem_of_mem_linesFrom {line bytes found : List UInt8} (free : lineFeed ∉ line)
    (h : found ∈ linesFrom line bytes) : lineFeed ∉ found := by
  induction bytes generalizing line with
  | nil =>
      rw [linesFrom] at h
      split at h
      · exact absurd h List.not_mem_nil
      · rw [List.mem_singleton.mp h, List.mem_reverse]
        exact free
  | cons byte bytes ih =>
      rw [linesFrom] at h
      split at h
      · rcases List.mem_cons.mp h with rfl | later
        · rw [List.mem_reverse]
          exact fun mem => free ((dropReturn_suffix line).mem mem)
        · exact ih List.not_mem_nil later
      · rename_i other
        exact ih (List.not_mem_cons_of_ne_of_not_mem (Ne.symm other) free) h

/-- There is no line feed in a line. -/
theorem lineFeed_notMem_of_mem_lines {bytes found : List UInt8} (h : found ∈ lines bytes) :
    lineFeed ∉ found :=
  lineFeed_notMem_of_mem_linesFrom List.not_mem_nil h

/-- The bytes are none, or they end with the end of a line. -/
def IsClosed (bytes : List UInt8) : Prop := bytes = [] ∨ bytes.getLast? = some lineFeed

instance : DecidablePred IsClosed := fun bytes =>
  inferInstanceAs (Decidable (bytes = [] ∨ bytes.getLast? = some lineFeed))

theorem linesFrom_append_of_getLast? {bytes : List UInt8} (closed : bytes.getLast? = some lineFeed)
    (line rest : List UInt8) : linesFrom line (bytes ++ rest) = linesFrom line bytes ++ lines rest := by
  induction bytes generalizing line with
  | nil => exact absurd closed (by simp)
  | cons byte bytes ih =>
      rw [List.cons_append, linesFrom, linesFrom]
      cases bytes with
      | nil =>
          -- the last byte ends the line that is open
          obtain rfl : byte = lineFeed := by simpa using closed
          rw [if_pos rfl, if_pos rfl]
          rfl
      | cons next bytes =>
          rw [List.getLast?_cons_cons] at closed
          rw [ih closed, ih closed]
          split <;> rfl

/-- **Where a line has ended the input may be cut**: the lines of both parts are the lines of the
whole. -/
theorem lines_append {bytes : List UInt8} (closed : IsClosed bytes) (rest : List UInt8) :
    lines (bytes ++ rest) = lines bytes ++ lines rest := by
  rcases closed with rfl | closed
  · rfl
  · exact linesFrom_append_of_getLast? closed [] rest

/-! ## What a carriage return at the end does not change -/

theorem mem_of_mem_withoutReturn {text : String} {c : Char} (mem : c ∈ (withoutReturn text).toList) :
    c ∈ text.toList := by
  unfold withoutReturn at mem
  split at mem
  · rw [String.toList_ofList] at mem
    exact (List.dropLast_prefix _).mem mem
  · exact mem

theorem trim_withoutReturn (text : String) : trim (withoutReturn text) = trim text := by
  unfold withoutReturn
  split
  · rename_i last
    have split : text.toList = text.toList.dropLast ++ ['\r'] :=
      (List.dropLast_append_getLast? _ last).symm
    rw [trim, trim, String.toList_ofList, ← trimChars_concat (c := '\r') (by decide), ← split]
  · rfl

end Calculator.Text
