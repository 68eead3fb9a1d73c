import Coherence.Json.Raw
import Coherence.Json.Writer

set_option autoImplicit false

namespace Coherence.Json

def written (chars : List Char) : Bytes := chars.flatMap String.utf8EncodeChar

@[simp] theorem written_nil : written [] = [] := rfl

@[simp] theorem written_append (first second : List Char) :
    written (first ++ second) = written first ++ written second := by
  simp [written]

@[simp] theorem written_cons (c : Char) (chars : List Char) :
    written (c :: chars) = String.utf8EncodeChar c ++ written chars := by
  simp [written]

theorem of_text_of_chars (chars : List Char) : Bytes.ofText (String.ofList chars) = written chars := by
  simp [Bytes.ofText, List.utf8Encode, written]

theorem written_text (text : String) : written text.toList = Bytes.ofText text := by
  rw [← of_text_of_chars, String.ofList_toList]

-- The bytes are read as pieces that stand for the contents, whatever comes after them.
structure Spells (bytes : Bytes) (pieces : List Piece) (contents : Bytes) : Prop where
  scanned : ∀ rest, scanLiteral .plain (bytes ++ rest) =
    (scanLiteral .plain rest).map fun (later, left) => (pieces ++ later, left)
  meant : ∀ later, contents? (pieces ++ later) = (contents? later).map (contents ++ ·)

theorem spells_nil : Spells [] [] [] := by
  constructor <;> intros <;> simp

theorem spells_append {first second : Bytes} {here there : List Piece} {before after : Bytes}
    (left : Spells first here before) (right : Spells second there after) :
    Spells (first ++ second) (here ++ there) (before ++ after) := by
  constructor
  · intro rest
    rw [List.append_assoc, left.scanned, right.scanned, Option.map_map]
    simp [Function.comp_def]
  · intro later
    rw [List.append_assoc, left.meant, right.meant, Option.map_map]
    simp [Function.comp_def]

def isPlain (b : UInt8) : Prop := b ≠ '"'.toUInt8 ∧ b ≠ '\\'.toUInt8 ∧ ¬ b < 0x20

theorem spells_plain (b : UInt8) (plain : isPlain b) : Spells [b] [.byte b] [b] := by
  obtain ⟨notQuote, notBackslash, notControl⟩ := plain
  constructor
  · intro rest
    rw [List.singleton_append, scanLiteral, if_neg notQuote, if_neg notBackslash, if_neg notControl]
    rfl
  · intro later
    rfl

theorem spells_plain_bytes (bytes : Bytes) (plain : ∀ b ∈ bytes, isPlain b) :
    Spells bytes (bytes.map .byte) bytes := by
  induction bytes with
  | nil => exact spells_nil
  | cons b rest ih =>
      have here := spells_plain b (plain b (by simp))
      have there := ih fun other member => plain other (by simp [member])
      exact spells_append here there

theorem unit_meant (code : UInt16) (notHigh : isHighSurrogate code = false) (notLow : isLowSurrogate code = false)
    (later : List Piece) :
    contents? (.unit code :: later) =
      (contents? later).map (String.utf8EncodeChar (Char.ofNat code.toNat) ++ ·) := by
  rw [contents?.eq_def]
  simp [notHigh, notLow]

theorem spells_escape (b : UInt8) (code : UInt16) (letter : b ≠ 'u'.toUInt8) (escape : escapeCode? b = some code)
    (notHigh : isHighSurrogate code = false) (notLow : isLowSurrogate code = false) :
    Spells ['\\'.toUInt8, b] [.unit code] (String.utf8EncodeChar (Char.ofNat code.toNat)) := by
  constructor
  · intro rest
    have notQuote : '\\'.toUInt8 ≠ '"'.toUInt8 := by decide
    rw [List.cons_append, scanLiteral, if_neg notQuote, if_pos rfl, List.singleton_append, scanLiteral, if_neg letter,
      escape]
    rfl
  · exact unit_meant code notHigh notLow

theorem hex_value_of_digit (n : Nat) (small : n < 16) : hexValue? (hexDigit n).toUInt8 = some (UInt16.ofNat n) := by
  have all : ∀ n < 16, hexValue? (hexDigit n).toUInt8 = some (UInt16.ofNat n) := by decide
  exact all n small

theorem spells_control (n : Nat) (small : n < 0x20) :
    Spells ['\\'.toUInt8, 'u'.toUInt8, '0'.toUInt8, '0'.toUInt8, (hexDigit (n / 16)).toUInt8, (hexDigit (n % 16)).toUInt8]
      [.unit (UInt16.ofNat n)] (String.utf8EncodeChar (Char.ofNat n)) := by
  have back : (UInt16.ofNat n).toNat = n := UInt16.toNat_ofNat_of_lt' (Nat.lt_of_lt_of_le small (by decide))
  have joined : ((0 * 16 + 0) * 16 + UInt16.ofNat (n / 16)) * 16 + UInt16.ofNat (n % 16) = UInt16.ofNat n := by
    have all : ∀ n < 0x20, ((0 * 16 + 0) * 16 + UInt16.ofNat (n / 16)) * 16 + UInt16.ofNat (n % 16) = UInt16.ofNat n := by
      decide
    exact all n small
  constructor
  · intro rest
    have zero : hexValue? '0'.toUInt8 = some 0 := by decide
    have high := hex_value_of_digit (n / 16) (by omega)
    have low := hex_value_of_digit (n % 16) (by omega)
    have notQuote : '\\'.toUInt8 ≠ '"'.toUInt8 := by decide
    simp only [List.cons_append, List.nil_append, scanLiteral, if_neg notQuote, if_true, zero, high, low]
    rw [show (0 * 16 + 0 : UInt16) * 16 + 0 = 0 * 16 + 0 by decide, joined]
    rfl
  · have meant := unit_meant (UInt16.ofNat n)
    rw [back] at meant
    have all : ∀ n < 0x20, isHighSurrogate (UInt16.ofNat n) = false ∧ isLowSurrogate (UInt16.ofNat n) = false := by decide
    exact meant (all n small).1 (all n small).2

theorem ascii_bytes (c : Char) (ascii : c.toNat < 0x80) : String.utf8EncodeChar c = [c.toUInt8] := by
  have small : c.val.toNat ≤ 0x7f := Nat.le_of_lt_succ ascii
  simp only [String.utf8EncodeChar, if_pos small]
  rfl

theorem high_byte_plain (n : Nat) (high : 0x80 ≤ n) (bound : n < 0x100) : isPlain (UInt8.ofNat n) := by
  have value : (UInt8.ofNat n).toNat = n := UInt8.toNat_ofNat_of_lt' (by omega)
  refine ⟨?_, ?_, ?_⟩
  · intro same
    have equal := congrArg UInt8.toNat same
    rw [value] at equal
    have : ('"'.toUInt8).toNat = 34 := by decide
    omega
  · intro same
    have equal := congrArg UInt8.toNat same
    rw [value] at equal
    have : ('\\'.toUInt8).toNat = 92 := by decide
    omega
  · intro less
    have smaller : (UInt8.ofNat n).toNat < 0x20 := less
    omega

theorem wide_bytes_plain (c : Char) (wide : 0x80 ≤ c.toNat) : ∀ b ∈ String.utf8EncodeChar c, isPlain b := by
  have notAscii : ¬ c.val.toNat ≤ 0x7f := Nat.not_le.mpr wide
  -- Every byte of a longer encoding has its highest bit set, so none is a quote or a control.
  intro b member
  simp only [String.utf8EncodeChar, if_neg notAscii] at member
  split at member
  · simp only [List.mem_cons, List.not_mem_nil, or_false] at member
    rcases member with rfl | rfl <;> exact high_byte_plain _ (by omega) (by omega)
  · split at member
    · simp only [List.mem_cons, List.not_mem_nil, or_false] at member
      rcases member with rfl | rfl | rfl <;> exact high_byte_plain _ (by omega) (by omega)
    · simp only [List.mem_cons, List.not_mem_nil, or_false] at member
      rcases member with rfl | rfl | rfl | rfl <;> exact high_byte_plain _ (by omega) (by omega)

theorem ascii_value (c : Char) (ascii : c.toNat < 0x80) : c.toUInt8.toNat = c.toNat := by
  have reduced : c.toUInt8.toNat = c.toNat % 2 ^ 8 := UInt32.toNat_toUInt8 c.val
  omega

theorem ascii_injective (c other : Char) (ascii : c.toNat < 0x80) (otherAscii : other.toNat < 0x80)
    (same : c.toUInt8 = other.toUInt8) : c = other := by
  have equal := congrArg UInt8.toNat same
  rw [ascii_value c ascii, ascii_value other otherAscii] at equal
  exact Char.toNat_inj.mp equal

theorem ascii_plain (c : Char) (notQuote : c ≠ '"') (notBackslash : c ≠ '\\') (notControl : ¬ c.toNat < 0x20)
    (ascii : c.toNat < 0x80) : isPlain c.toUInt8 := by
  refine ⟨fun same => notQuote (ascii_injective c _ ascii (by decide) same),
    fun same => notBackslash (ascii_injective c _ ascii (by decide) same), ?_⟩
  intro less
  have smaller : c.toUInt8.toNat < 0x20 := less
  rw [ascii_value c ascii] at smaller
  exact notControl smaller

theorem spells_char (c : Char) : ∃ pieces, Spells (written (escapeChar c)) pieces (String.utf8EncodeChar c) := by
  by_cases quote : c = '"'
  · subst quote
    exact ⟨_, spells_escape '"'.toUInt8 34 (by decide) (by decide) (by decide) (by decide)⟩
  by_cases backslash : c = '\\'
  · subst backslash
    exact ⟨_, spells_escape '\\'.toUInt8 92 (by decide) (by decide) (by decide) (by decide)⟩
  by_cases backspace : c = Char.ofNat 8
  · subst backspace
    exact ⟨_, spells_escape 'b'.toUInt8 8 (by decide) (by decide) (by decide) (by decide)⟩
  by_cases feed : c = Char.ofNat 12
  · subst feed
    exact ⟨_, spells_escape 'f'.toUInt8 12 (by decide) (by decide) (by decide) (by decide)⟩
  by_cases newline : c = '\n'
  · subst newline
    exact ⟨_, spells_escape 'n'.toUInt8 10 (by decide) (by decide) (by decide) (by decide)⟩
  by_cases carriage : c = '\r'
  · subst carriage
    exact ⟨_, spells_escape 'r'.toUInt8 13 (by decide) (by decide) (by decide) (by decide)⟩
  by_cases tab : c = '\t'
  · subst tab
    exact ⟨_, spells_escape 't'.toUInt8 9 (by decide) (by decide) (by decide) (by decide)⟩
  by_cases control : c.toNat < 0x20
  · have spelled := spells_control c.toNat control
    rw [Char.ofNat_toNat] at spelled
    have digit : ∀ n < 16, String.utf8EncodeChar (hexDigit n) = [(hexDigit n).toUInt8] := by decide
    have bytes : written (escapeChar c) = ['\\'.toUInt8, 'u'.toUInt8, '0'.toUInt8, '0'.toUInt8,
        (hexDigit (c.toNat / 16)).toUInt8, (hexDigit (c.toNat % 16)).toUInt8] := by
      simp only [escapeChar, if_neg quote, if_neg backslash, if_neg backspace, if_neg feed, if_neg newline,
        if_neg carriage, if_neg tab, if_pos control, written_cons, written_nil, digit _ (show c.toNat / 16 < 16 by omega),
        digit _ (show c.toNat % 16 < 16 by omega)]
      rfl
    exact ⟨_, bytes ▸ spelled⟩
  · have bytes : written (escapeChar c) = String.utf8EncodeChar c := by
      simp [escapeChar, quote, backslash, backspace, feed, newline, carriage, tab, control]
    rw [bytes]
    by_cases ascii : c.toNat < 0x80
    · rw [ascii_bytes c ascii]
      exact ⟨_, spells_plain _ (ascii_plain c quote backslash control ascii)⟩
    · exact ⟨_, spells_plain_bytes _ (wide_bytes_plain c (Nat.le_of_not_lt ascii))⟩

theorem spells_chars (chars : List Char) : ∃ pieces, Spells (written (chars.flatMap escapeChar)) pieces (written chars) := by
  induction chars with
  | nil => exact ⟨[], spells_nil⟩
  | cons c rest ih =>
      obtain ⟨here, first⟩ := spells_char c
      obtain ⟨there, others⟩ := ih
      refine ⟨here ++ there, ?_⟩
      simpa using spells_append first others

theorem literal_written (text : String) (rest : Bytes) :
    Raw.literal? (written (text.toList.flatMap escapeChar) ++ '"'.toUInt8 :: rest) = some (some text, rest) := by
  obtain ⟨pieces, spelled⟩ := spells_chars text.toList
  have contents := spelled.meant []
  rw [List.append_nil, written_text] at contents
  have closing : scanLiteral .plain ('"'.toUInt8 :: rest) = some ([], rest) := by
    rw [scanLiteral, if_pos rfl]
  simp [Raw.literal?, spelled.scanned, closing, literalText?, contents, contents?]

end Coherence.Json
