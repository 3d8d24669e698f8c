import WorkerFleet.OsString

/-!
# Texts as bytes

A text that was encoded is decoded again, whatever characters it holds, and bytes that are valid
throughout are those of the text that they decode to. A character takes one to four bytes: the first
one says how many follow and within which bounds the next one lies, and each of the others adds six
bits.

* `scanFrom_char`: the bytes of one character, before any other bytes.
* `eq_append_of_scanFrom`: bytes that are read as one character.
* `OsString.text?_ofText`, `OsString.text?_eq_some_iff`: which strings hold a text.
-/

namespace WorkerFleet.Text.Utf8

theorem toNat_ofNat_byte {b : Nat} (h : b < 256) : (UInt8.ofNat b).toNat = b :=
  UInt8.toNat_ofNat_of_lt' h

theorem scanFrom_lead {b : UInt8} {t : Tail} (h : lead b = .tail t) (rest : List UInt8) :
    scanFrom none (b :: rest) = scanFrom (some t) rest := by
  rw [scanFrom, h]

section

variable {more bits low high b : Nat} (hb : b < 256) (hlow : low ≤ b) (hhigh : b ≤ high)
  (rest : List UInt8)

include hb hlow hhigh

/-- A byte within the bounds adds its six bits. -/
theorem scanFrom_tail :
    scanFrom (some ⟨more + 1, bits, low, high⟩) (UInt8.ofNat b :: rest) =
      scanFrom (some ⟨more, bits * 64 + (b - 0x80), 0x80, 0xBF⟩) rest := by
  simp only [scanFrom, toNat_ofNat_byte hb, hlow, hhigh, and_self, if_true]

theorem scanFrom_last :
    scanFrom (some ⟨0, bits, low, high⟩) (UInt8.ofNat b :: rest) =
      some (Char.ofNat (bits * 64 + (b - 0x80))) :: scanFrom none rest := by
  simp only [scanFrom, toNat_ofNat_byte hb, hlow, hhigh, and_self, if_true]

end

theorem lead_one {b : Nat} (h : b < 0x80) : lead (UInt8.ofNat b) = .char (Char.ofNat b) := by
  rw [lead, toNat_ofNat_byte (by omega), if_pos h]

theorem lead_two {b : Nat} (hl : 0xC2 ≤ b) (hu : b < 0xE0) :
    lead (UInt8.ofNat b) = .tail ⟨0, b - 0xC0, 0x80, 0xBF⟩ := by
  rw [lead, toNat_ofNat_byte (by omega), if_neg (by omega), if_neg (by omega), if_pos hu]

theorem lead_three {b : Nat} (hl : 0xE0 ≤ b) (hu : b < 0xF0) :
    lead (UInt8.ofNat b) = .tail
      ⟨1, b - 0xE0, if b = 0xE0 then 0xA0 else 0x80, if b = 0xED then 0x9F else 0xBF⟩ := by
  rw [lead, toNat_ofNat_byte (by omega), if_neg (by omega), if_neg (by omega), if_neg (by omega),
    if_pos hu]

theorem lead_four {b : Nat} (hl : 0xF0 ≤ b) (hu : b < 0xF5) :
    lead (UInt8.ofNat b) = .tail
      ⟨2, b - 0xF0, if b = 0xF0 then 0x90 else 0x80, if b = 0xF4 then 0x8F else 0xBF⟩ := by
  rw [lead, toNat_ofNat_byte (by omega), if_neg (by omega), if_neg (by omega), if_neg (by omega),
    if_neg (by omega), if_pos hu]

/-- The bytes of a character are read as that character, whatever follows them. -/
theorem scanFrom_char (c : Char) (rest : List UInt8) :
    scanFrom none (String.utf8EncodeChar c ++ rest) = some c :: scanFrom none rest := by
  have hvalid : c.toNat < 0xD800 ∨ 0xDFFF < c.toNat ∧ c.toNat < 0x110000 := c.valid
  have hback : Char.ofNat c.toNat = c := Char.ofNat_toNat c
  have hval : c.val.toNat = c.toNat := rfl
  simp only [String.utf8EncodeChar, hval]
  generalize c.toNat = n at hvalid hback
  -- One case for each number of bytes, in each of which the bits of the bytes make up `n`.
  by_cases h₁ : n ≤ 0x7F
  · rw [if_pos h₁, List.singleton_append, scanFrom, lead_one (by omega), hback]
  by_cases h₂ : n ≤ 0x7FF
  · have hbits : (n / 64 % 32 + 192 - 192) * 64 + (n % 64 + 128 - 128) = n := by omega
    rw [if_neg h₁, if_pos h₂, List.cons_append, List.singleton_append,
      scanFrom_lead (lead_two (by omega) (by omega)),
      scanFrom_last (by omega) (by omega) (by omega), hbits, hback]
  by_cases h₃ : n ≤ 0xFFFF
  · have hbits : ((n / 4096 % 16 + 224 - 224) * 64 + (n / 64 % 64 + 128 - 128)) * 64 +
        (n % 64 + 128 - 128) = n := by omega
    rw [if_neg h₁, if_neg h₂, if_pos h₃, List.cons_append, List.cons_append,
      List.singleton_append, scanFrom_lead (lead_three (by omega) (by omega)),
      scanFrom_tail (by omega) (by split <;> omega) (by split <;> omega),
      scanFrom_last (by omega) (by omega) (by omega), hbits, hback]
  · have hbits : (((n / 262144 % 8 + 240 - 240) * 64 + (n / 4096 % 64 + 128 - 128)) * 64 +
        (n / 64 % 64 + 128 - 128)) * 64 + (n % 64 + 128 - 128) = n := by omega
    rw [if_neg h₁, if_neg h₂, if_neg h₃, List.cons_append, List.cons_append, List.cons_append,
      List.singleton_append, scanFrom_lead (lead_four (by omega) (by omega)),
      scanFrom_tail (by omega) (by split <;> omega) (by split <;> omega),
      scanFrom_tail (by omega) (by omega) (by omega),
      scanFrom_last (by omega) (by omega) (by omega), hbits, hback]

theorem utf8Size_of_lt {c : Char} (h : c.toNat < 128) : c.utf8Size = 1 := by
  rw [Char.utf8Size_eq_one_iff, UInt32.le_iff_toNat_le]
  exact Nat.le_of_lt_succ h

/-- An ASCII character is encoded as its own number. -/
theorem toNat_byte {c : Char} (h : c.toNat < 128) : c.val.toUInt8.toNat = c.toNat := by
  rw [UInt32.toNat_toUInt8]
  exact Nat.mod_eq_of_lt (Nat.lt_trans h (by omega))

theorem encode_cons {c : Char} (h : c.toNat < 128) (rest : List Char) :
    encode (c :: rest) = c.val.toUInt8 :: encode rest := by
  rw [encode, List.flatMap_cons, String.utf8EncodeChar_eq_singleton (utf8Size_of_lt h)]
  rfl

theorem scan_encode (text : List Char) : scan (encode text) = text.map some := by
  rw [scan, encode]
  induction text with
  | nil => rfl
  | cons c rest ih => rw [List.flatMap_cons, scanFrom_char, ih, List.map_cons]

theorem decode?_encode (text : List Char) : decode? (encode text) = some text := by
  rw [decode?, scan_encode]
  induction text with
  | nil => rfl
  | cons c rest ih => rw [List.map_cons, List.mapM_cons, ih]; rfl

theorem decodeLossy_encode (text : List Char) : decodeLossy (encode text) = text := by
  rw [decodeLossy, scan_encode, List.map_map]
  exact List.map_id text

theorem toNat_ofNat {n : Nat} (h : n.isValidChar) : (Char.ofNat n).toNat = n := by
  rw [Char.ofNat, dif_pos h]
  rfl

theorem ofNat_eq {n : Nat} {b : UInt8} (h : n = b.toNat) : UInt8.ofNat n = b := by
  rw [h]
  exact UInt8.ofNat_toNat

section

variable {n : Nat} {b₀ b₁ b₂ b₃ : UInt8}

theorem encodeChar_one (h : n < 0x80) (hn : n = b₀.toNat) :
    String.utf8EncodeChar (Char.ofNat n) = [b₀] := by
  have hval : (Char.ofNat n).val.toNat = n := toNat_ofNat (.inl (by omega))
  simp only [String.utf8EncodeChar, hval]
  rw [if_pos (by omega), ofNat_eq hn]

variable (hl₁ : 0x80 ≤ b₁.toNat) (hu₁ : b₁.toNat ≤ 0xBF)

include hl₁ hu₁

theorem encodeChar_two (hl : 0xC2 ≤ b₀.toNat) (hu : b₀.toNat < 0xE0)
    (hn : n = (b₀.toNat - 0xC0) * 64 + (b₁.toNat - 0x80)) :
    String.utf8EncodeChar (Char.ofNat n) = [b₀, b₁] := by
  have hval : (Char.ofNat n).val.toNat = n := toNat_ofNat (.inl (by omega))
  simp only [String.utf8EncodeChar, hval]
  rw [if_neg (by omega), if_pos (by omega), ofNat_eq (b := b₀) (by omega),
    ofNat_eq (b := b₁) (by omega)]

variable (hl₂ : 0x80 ≤ b₂.toNat) (hu₂ : b₂.toNat ≤ 0xBF)

include hl₂ hu₂

theorem encodeChar_three (hl : 0xE0 ≤ b₀.toNat) (hu : b₀.toNat < 0xF0)
    (hover : b₀.toNat = 0xE0 → 0xA0 ≤ b₁.toNat) (hsurrogate : b₀.toNat = 0xED → b₁.toNat ≤ 0x9F)
    (hn : n = ((b₀.toNat - 0xE0) * 64 + (b₁.toNat - 0x80)) * 64 + (b₂.toNat - 0x80)) :
    String.utf8EncodeChar (Char.ofNat n) = [b₀, b₁, b₂] := by
  have hvalid : n < 0xD800 ∨ 0xDFFF < n ∧ n < 0x110000 := by omega
  have hval : (Char.ofNat n).val.toNat = n := toNat_ofNat hvalid
  simp only [String.utf8EncodeChar, hval]
  rw [if_neg (by omega), if_neg (by omega), if_pos (by omega), ofNat_eq (b := b₀) (by omega),
    ofNat_eq (b := b₁) (by omega), ofNat_eq (b := b₂) (by omega)]

theorem encodeChar_four (hl₃ : 0x80 ≤ b₃.toNat) (hu₃ : b₃.toNat ≤ 0xBF)
    (hl : 0xF0 ≤ b₀.toNat) (hu : b₀.toNat < 0xF5)
    (hover : b₀.toNat = 0xF0 → 0x90 ≤ b₁.toNat) (hlast : b₀.toNat = 0xF4 → b₁.toNat ≤ 0x8F)
    (hn : n = (((b₀.toNat - 0xF0) * 64 + (b₁.toNat - 0x80)) * 64 + (b₂.toNat - 0x80)) * 64 +
      (b₃.toNat - 0x80)) :
    String.utf8EncodeChar (Char.ofNat n) = [b₀, b₁, b₂, b₃] := by
  have hvalid : n < 0xD800 ∨ 0xDFFF < n ∧ n < 0x110000 := by omega
  have hval : (Char.ofNat n).val.toNat = n := toNat_ofNat hvalid
  simp only [String.utf8EncodeChar, hval]
  rw [if_neg (by omega), if_neg (by omega), if_neg (by omega), ofNat_eq (b := b₀) (by omega),
    ofNat_eq (b := b₁) (by omega), ofNat_eq (b := b₂) (by omega), ofNat_eq (b := b₃) (by omega)]

end

theorem lead_cases (b : UInt8) :
    (b.toNat < 0x80 ∧ lead b = .char (Char.ofNat b.toNat)) ∨
    (0xC2 ≤ b.toNat ∧ b.toNat < 0xE0 ∧ lead b = .tail ⟨0, b.toNat - 0xC0, 0x80, 0xBF⟩) ∨
    (0xE0 ≤ b.toNat ∧ b.toNat < 0xF0 ∧ lead b = .tail ⟨1, b.toNat - 0xE0,
      if b.toNat = 0xE0 then 0xA0 else 0x80, if b.toNat = 0xED then 0x9F else 0xBF⟩) ∨
    (0xF0 ≤ b.toNat ∧ b.toNat < 0xF5 ∧ lead b = .tail ⟨2, b.toNat - 0xF0,
      if b.toNat = 0xF0 then 0x90 else 0x80, if b.toNat = 0xF4 then 0x8F else 0xBF⟩) ∨
    lead b = .broken := by
  simp only [lead]
  split
  · exact .inl ⟨‹_›, rfl⟩
  split
  · exact .inr (.inr (.inr (.inr rfl)))
  split
  · exact .inr (.inl ⟨by omega, ‹_›, rfl⟩)
  split
  · exact .inr (.inr (.inl ⟨by omega, ‹_›, rfl⟩))
  split
  · exact .inr (.inr (.inr (.inl ⟨by omega, ‹_›, rfl⟩)))
  · exact .inr (.inr (.inr (.inr rfl)))

section

variable {more bits low high : Nat} {bytes : List UInt8} {c : Char} {found : List (Option Char)}

/-- An unfinished character goes on with a byte within the bounds. -/
theorem tail_of_scanFrom (h : scanFrom (some ⟨more + 1, bits, low, high⟩) bytes = some c :: found) :
    ∃ b rest, bytes = b :: rest ∧ low ≤ b.toNat ∧ b.toNat ≤ high ∧
      scanFrom (some ⟨more, bits * 64 + (b.toNat - 0x80), 0x80, 0xBF⟩) rest = some c :: found := by
  cases bytes with
  | nil => cases h
  | cons b rest =>
    rw [scanFrom] at h
    split at h
    case isTrue hb => exact ⟨b, rest, rfl, hb.1, hb.2, h⟩
    case isFalse => cases h

theorem last_of_scanFrom (h : scanFrom (some ⟨0, bits, low, high⟩) bytes = some c :: found) :
    ∃ b rest, bytes = b :: rest ∧ low ≤ b.toNat ∧ b.toNat ≤ high ∧
      c = Char.ofNat (bits * 64 + (b.toNat - 0x80)) ∧ scanFrom none rest = found := by
  cases bytes with
  | nil => cases h
  | cons b rest =>
    rw [scanFrom] at h
    split at h
    case isTrue hb =>
      obtain ⟨hc, hfound⟩ := List.cons.inj h
      exact ⟨b, rest, rfl, hb.1, hb.2, (Option.some.inj hc).symm, hfound⟩
    case isFalse => cases h

/-- Bytes that are read as a character first begin with those of that character. -/
theorem eq_append_of_scanFrom (h : scanFrom none bytes = some c :: found) :
    ∃ rest, bytes = String.utf8EncodeChar c ++ rest ∧ scanFrom none rest = found := by
  cases bytes with
  | nil => cases h
  | cons b₀ rest =>
    rcases lead_cases b₀ with ⟨hu, hlead⟩ | ⟨hl, hu, hlead⟩ | ⟨hl, hu, hlead⟩ | ⟨hl, hu, hlead⟩ |
      hlead
    · rw [scanFrom, hlead] at h
      obtain ⟨hc, hfound⟩ := List.cons.inj h
      have hbytes := encodeChar_one hu rfl
      exact ⟨rest, by rw [← Option.some.inj hc, hbytes]; rfl, hfound⟩
    · rw [scanFrom_lead hlead] at h
      obtain ⟨b₁, rest, rfl, hl₁, hu₁, hc, hfound⟩ := last_of_scanFrom h
      have hbytes := encodeChar_two hl₁ hu₁ hl hu rfl
      exact ⟨rest, by rw [hc, hbytes]; rfl, hfound⟩
    · rw [scanFrom_lead hlead] at h
      obtain ⟨b₁, rest, rfl, hl₁, hu₁, h⟩ := tail_of_scanFrom h
      obtain ⟨b₂, rest, rfl, hl₂, hu₂, hc, hfound⟩ := last_of_scanFrom h
      have hbytes : String.utf8EncodeChar c = [b₀, b₁, b₂] := by
        rw [hc]
        apply encodeChar_three _ _ hl₂ hu₂ hl hu _ _ rfl
        · split at hl₁ <;> omega
        · split at hu₁ <;> omega
        · intro hb
          rwa [if_pos hb] at hl₁
        · intro hb
          rwa [if_pos hb] at hu₁
      exact ⟨rest, by rw [hbytes]; rfl, hfound⟩
    · rw [scanFrom_lead hlead] at h
      obtain ⟨b₁, rest, rfl, hl₁, hu₁, h⟩ := tail_of_scanFrom h
      obtain ⟨b₂, rest, rfl, hl₂, hu₂, h⟩ := tail_of_scanFrom h
      obtain ⟨b₃, rest, rfl, hl₃, hu₃, hc, hfound⟩ := last_of_scanFrom h
      have hbytes : String.utf8EncodeChar c = [b₀, b₁, b₂, b₃] := by
        rw [hc]
        apply encodeChar_four _ _ hl₂ hu₂ hl₃ hu₃ hl hu _ _ rfl
        · split at hl₁ <;> omega
        · split at hu₁ <;> omega
        · intro hb
          rwa [if_pos hb] at hl₁
        · intro hb
          rwa [if_pos hb] at hu₁
      exact ⟨rest, by rw [hbytes]; rfl, hfound⟩
    · rw [scanFrom, hlead] at h
      cases h

end

/-- An unfinished character is read as something. -/
theorem scanFrom_some_ne_nil (t : Tail) (bytes : List UInt8) : scanFrom (some t) bytes ≠ [] := by
  induction bytes generalizing t with
  | nil => simp [scanFrom]
  | cons b bytes ih =>
    rw [scanFrom]
    split
    · dsimp only
      split
      · simp
      · exact ih _
    · simp

theorem eq_nil_of_scanFrom {bytes : List UInt8} (h : scanFrom none bytes = []) : bytes = [] := by
  cases bytes with
  | nil => rfl
  | cons b bytes =>
    rw [scanFrom] at h
    split at h
    · cases h
    · exact absurd h (scanFrom_some_ne_nil _ _)
    · cases h

/-- Bytes that are read as a text are those of the text. -/
theorem eq_encode_of_scan {bytes : List UInt8} {text : List Char}
    (h : scan bytes = text.map some) : bytes = encode text := by
  rw [scan] at h
  induction text generalizing bytes with
  | nil => exact eq_nil_of_scanFrom h
  | cons c text ih =>
    obtain ⟨rest, rfl, hrest⟩ := eq_append_of_scanFrom h
    rw [encode, List.flatMap_cons, ih hrest]
    rfl

theorem decode?_eq_some_iff {bytes : List UInt8} {text : List Char} :
    decode? bytes = some text ↔ scan bytes = text.map some := by
  rw [decode?]
  generalize scan bytes = found
  induction found generalizing text with
  | nil => cases text <;> simp
  | cons c found ih =>
    rw [List.mapM_cons]
    cases c with
    | none => cases text <;> simp
    | some c =>
      cases text with
      | nil => cases h : List.mapM id found <;> simp
      | cons d rest =>
        rw [List.map_cons, List.cons.injEq, ← ih]
        cases h : List.mapM id found <;> simp

end WorkerFleet.Text.Utf8

namespace WorkerFleet

theorem OsString.text?_ofText (text : String) : (OsString.ofText text).text? = some text := by
  rw [OsString.text?, OsString.ofText, Text.Utf8.decode?_encode, Option.map_some,
    String.ofList_toList]

theorem OsString.ofText_injective {a b : String} (h : OsString.ofText a = .ofText b) : a = b :=
  Option.some.inj (by rw [← text?_ofText a, h, text?_ofText])

/-- A string holds a text just if its bytes are those of the text. -/
theorem OsString.text?_eq_some_iff {s : OsString} {text : String} :
    s.text? = some text ↔ s = .ofText text := by
  constructor
  · intro hs
    obtain ⟨chars, hchars, rfl⟩ := Option.map_eq_some_iff.mp hs
    have hbytes := Text.Utf8.eq_encode_of_scan (Text.Utf8.decode?_eq_some_iff.mp hchars)
    rw [ofText, String.toList_ofList, ← hbytes]
  · rintro rfl
    exact text?_ofText text

end WorkerFleet
