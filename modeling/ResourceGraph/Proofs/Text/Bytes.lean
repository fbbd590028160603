/-
**Bytes of texts, and digits of bytes.**

A text is written as bytes character by character, and bytes as pairs of hexadecimal digits; both
can be undone.

* `bytes_eq`: the bytes of a text, by its characters; `utf8_inj`: they determine the characters;
* `bytes_lt_bytes_of_lt`: texts in order have their bytes in order;
* `bytesOfHex?_flatMap_hexByte`, `hexOfBytes_injective`: hexadecimal digits are read back;
* `Printable`: no character is a control character; `printable_hexOfBytes`.
-/

import ResourceGraph.Document.Fingerprint

namespace ResourceGraph.Text

/-! ### Bytes of characters -/

/-- The bytes of a sequence of characters. -/
def utf8 (chars : List Char) : List UInt8 :=
  chars.flatMap String.utf8EncodeChar

/-- The loop that lists the bytes of an array goes on from where it is. -/
theorem toList_loop (bytes : ByteArray) (start : Nat) (read : List UInt8) :
    ByteArray.toList.loop bytes start read = read.reverse ++ bytes.data.toList.drop start := by
  fun_induction ByteArray.toList.loop bytes start read with
  | case1 start read inside ih =>
    have within : start < bytes.data.toList.length := by simpa using inside
    have item : bytes.get! start = bytes.data.toList[start] := by
      obtain ⟨data⟩ := bytes
      exact getElem!_pos data start inside
    rw [ih, List.drop_eq_getElem_cons within, ← item, List.reverse_cons, List.append_assoc]
    rfl
  | case2 start read outside =>
    rw [List.drop_eq_nil_of_le (by simpa using outside), List.append_nil]

theorem bytes_eq (text : String) : bytes text = utf8 text.toList := by
  have encoded : text.toUTF8 = (utf8 text.toList).toByteArray := by
    calc text.toUTF8 = (String.ofList text.toList).toByteArray := by
          rw [String.ofList_toList, String.toUTF8_eq_toByteArray]
      _ = (utf8 text.toList).toByteArray := String.toByteArray_ofList
  show ByteArray.toList.loop text.toUTF8 0 [] = _
  rw [toList_loop, encoded, List.toList_data_toByteArray]
  rfl

@[simp]
theorem utf8_append (first second : List Char) :
    utf8 (first ++ second) = utf8 first ++ utf8 second :=
  List.flatMap_append

theorem utf8_flatMap {α : Type} (items : List α) (chars : α → List Char) :
    utf8 (items.flatMap chars) = items.flatMap fun item => utf8 (chars item) :=
  List.flatMap_assoc

/-- The null character is the byte zero. -/
@[simp]
theorem utf8_null_cons (chars : List Char) : utf8 ('\x00' :: chars) = 0 :: utf8 chars :=
  rfl

/-- **The bytes determine the characters.** -/
theorem utf8_inj {first second : List Char} : utf8 first = utf8 second ↔ first = second := by
  refine ⟨fun same => ?_, fun same => by rw [same]⟩
  refine String.ofList_injective (String.toByteArray_inj.mp ?_)
  rw [String.toByteArray_ofList, String.toByteArray_ofList]
  exact congrArg List.toByteArray same

/-! ### The order of texts -/

theorem ofNat_cons_lt_iff {one other : Nat} (bound : one < 256) (also : other < 256)
    {rest others : List UInt8} :
    UInt8.ofNat one :: rest < UInt8.ofNat other :: others ↔
      one < other ∨ one = other ∧ rest < others := by
  rw [List.cons_lt_cons_iff, UInt8.lt_iff_toNat_lt, ← UInt8.toNat_inj,
    UInt8.toNat_ofNat_of_lt' bound, UInt8.toNat_ofNat_of_lt' also]

/-- **The bytes of a character come before those of a greater one**, whatever follows them. -/
theorem utf8EncodeChar_append_lt {c d : Char} (before : c < d) (rest others : List UInt8) :
    String.utf8EncodeChar c ++ rest < String.utf8EncodeChar d ++ others := by
  have lower : c.val.toNat < d.val.toNat := before
  have top : d.val.toNat < 0x110000 := by
    rcases d.valid with low | high
    · exact Nat.lt_trans low (by decide)
    · exact high.2
  unfold String.utf8EncodeChar
  dsimp only
  generalize c.val.toNat = low at *
  generalize d.val.toNat = high at *
  have thousands (code : Nat) : code / 4096 = code / 64 / 64 := by omega
  have more (code : Nat) : code / 262144 = code / 64 / 64 / 64 := by omega
  -- with as many bytes they are digits to base 64, and with more the first byte is greater
  repeat' split
  all_goals
    simp (disch := omega) only [List.cons_append, List.nil_append, ofNat_cons_lt_iff,
      thousands, more]
    omega

theorem utf8_lt_utf8_of_lt {first second : List Char} (before : first < second) :
    utf8 first < utf8 second := by
  induction before with
  | @nil c rest =>
    rw [utf8, List.flatMap_nil, utf8, List.flatMap_cons]
    obtain ⟨byte, bytes, some⟩ := List.exists_cons_of_ne_nil (String.utf8EncodeChar_ne_nil (c := c))
    rw [some]
    exact List.nil_lt_cons _ _
  | @cons c first second _ ih =>
    rw [utf8, List.flatMap_cons, utf8, List.flatMap_cons]
    exact List.append_left_lt ih
  | rel lower =>
    rw [utf8, List.flatMap_cons, utf8, List.flatMap_cons]
    exact utf8EncodeChar_append_lt lower _ _

/-- **Texts in order have their bytes in order.** -/
theorem bytes_lt_bytes_of_lt {first second : String} (before : first < second) :
    bytes first < bytes second := by
  rw [bytes_eq, bytes_eq]
  exact utf8_lt_utf8_of_lt before

/-! ### Control characters -/

/-- No character is a control character. -/
def Printable (chars : List Char) : Prop :=
  ∀ c ∈ chars, 32 ≤ c.toNat

instance (chars : List Char) : Decidable (Printable chars) :=
  decidable_of_iff ((chars.all fun c => 32 ≤ c.toNat) = true) (by simp [Printable])

theorem printable_append {first second : List Char} :
    Printable (first ++ second) ↔ Printable first ∧ Printable second :=
  List.forall_mem_append

theorem printable_cons {c : Char} {chars : List Char} :
    Printable (c :: chars) ↔ 32 ≤ c.toNat ∧ Printable chars :=
  List.forall_mem_cons

theorem printable_of_isDigit {chars : List Char} (digits : ∀ c ∈ chars, c.isDigit = true) :
    Printable chars := by
  intro c member
  have digit := digits c member
  rw [Char.isDigit, Bool.and_eq_true, decide_eq_true_iff] at digit
  have least : 48 ≤ c.toNat := digit.1
  omega

theorem Printable.null_not_mem {chars : List Char} (printable : Printable chars) :
    '\x00' ∉ chars := by
  intro member
  exact absurd (printable _ member) (by decide)

/-! ### Hexadecimal digits -/

theorem hexValue?_hexDigit : ∀ value < 16, hexValue? (hexDigit value) = some value := by
  decide

theorem le_toNat_hexDigit : ∀ value < 16, 32 ≤ (hexDigit value).toNat := by
  decide

theorem printable_hexByte (byte : UInt8) : Printable (hexByte byte) := by
  have bound := byte.toNat_lt
  exact printable_cons.mpr ⟨le_toNat_hexDigit (byte.toNat / 16) (by omega),
    List.forall_mem_singleton.mpr (le_toNat_hexDigit (byte.toNat % 16) (by omega))⟩

theorem bytesOfHex?_flatMap_hexByte (bytes : List UInt8) :
    bytesOfHex? (bytes.flatMap hexByte) = some bytes := by
  induction bytes with
  | nil => rfl
  | cons byte rest ih =>
    have bound := byte.toNat_lt
    have high := hexValue?_hexDigit (byte.toNat / 16) (by omega)
    have low := hexValue?_hexDigit (byte.toNat % 16) (by omega)
    show (do
      let upper ← hexValue? (hexDigit (byte.toNat / 16))
      let lower ← hexValue? (hexDigit (byte.toNat % 16))
      let bytes ← bytesOfHex? (rest.flatMap hexByte)
      pure (UInt8.ofNat (upper * 16 + lower) :: bytes)) = some (byte :: rest)
    rw [high, low, ih]
    have whole : byte.toNat / 16 * 16 + byte.toNat % 16 = byte.toNat := by omega
    show some (UInt8.ofNat (byte.toNat / 16 * 16 + byte.toNat % 16) :: rest) = _
    rw [whole, UInt8.ofNat_toNat]

/-- **Hexadecimal digits determine the bytes.** -/
theorem hexOfBytes_injective : Function.Injective hexOfBytes := by
  intro first second same
  have read := bytesOfHex?_flatMap_hexByte first
  rw [String.ofList_injective same, bytesOfHex?_flatMap_hexByte second] at read
  exact (Option.some.inj read).symm

theorem length_hexOfBytes (bytes : List UInt8) :
    (hexOfBytes bytes).toList.length = 2 * bytes.length := by
  rw [hexOfBytes, String.toList_ofList, List.length_flatMap]
  induction bytes with
  | nil => rfl
  | cons byte rest ih =>
    rw [List.map_cons, List.sum_cons, ih, List.length_cons, hexByte, List.length_cons,
      List.length_singleton]
    omega

theorem printable_hexOfBytes (bytes : List UInt8) : Printable (hexOfBytes bytes).toList := by
  rw [hexOfBytes, String.toList_ofList]
  intro c member
  obtain ⟨byte, -, digit⟩ := List.mem_flatMap.mp member
  exact printable_hexByte byte c digit

end ResourceGraph.Text
