import FieldPredicate.Numeral.ByteScan
import FieldPredicate.Proofs.Numeral.DigitRun
import FieldPredicate.Proofs.Text.TextOrder

/-!
# The scan of bytes finds the longest run of digits

Digits and underscores are the characters of one byte, and no byte of a longer encoding looks like
one of them. So the scan of the bytes of a text goes as the measuring of its characters does: both
find the longest run of digits at the start of the text. It ends behind a digit, hence between two
characters.
-/

namespace FieldPredicate.Radix

open Text

variable {radix : Radix}

/-! ## One round of the scan -/

section Rounds

variable {front gap more : List UInt8} {byte : UInt8} {length : Nat}

/-- What the scan passes over: an underscore, or nothing where none stands. -/
def Skips (gap more : List UInt8) : Prop :=
  gap = [underscoreByte] ∨ gap = [] ∧ more.head? ≠ some underscoreByte

theorem skipUnderscore_append (h : Skips gap more) :
    skipUnderscore (front ++ (gap ++ more)) front.length = (front ++ gap).length := by
  rw [skipUnderscore, List.getElem?_append_right (Nat.le_refl _), Nat.sub_self,
    ← List.head?_eq_getElem?]
  rcases h with rfl | ⟨rfl, hmore⟩
  · simp
  · rw [List.nil_append, if_neg hmore, List.append_nil]

theorem getElem?_behind_gap (front gap more : List UInt8) :
    (front ++ (gap ++ more))[(front ++ gap).length]? = more.head? := by
  rw [← List.append_assoc, List.getElem?_append_right (Nat.le_refl _), Nat.sub_self,
    ← List.head?_eq_getElem?]

theorem scanDigits_digit (hgap : Skips gap (byte :: more)) (hbyte : radix.isDigitByte byte = true) :
    radix.scanDigits (front ++ (gap ++ byte :: more)) front.length length =
      radix.scanDigits ((front ++ gap ++ [byte]) ++ more) (front ++ gap ++ [byte]).length
        (front ++ gap ++ [byte]).length := by
  have hsame : front ++ (gap ++ byte :: more) = (front ++ gap ++ [byte]) ++ more := by simp
  have hlength : (front ++ gap ++ [byte]).length = (front ++ gap).length + 1 := List.length_append
  have hnext := getElem?_behind_gap front gap (byte :: more)
  rw [scanDigits, skipUnderscore_append hgap]
  split
  · rename_i other hother
    rw [hnext] at hother
    cases hother
    rw [if_pos hbyte, hsame, hlength]
  · rename_i hother
    rw [hnext] at hother
    cases hother

theorem scanDigits_end (hgap : Skips gap more)
    (hmore : ∀ byte, more.head? = some byte → radix.isDigitByte byte = false) :
    radix.scanDigits (front ++ (gap ++ more)) front.length length = length := by
  have hnext := getElem?_behind_gap front gap more
  rw [scanDigits, skipUnderscore_append hgap]
  split
  · rename_i byte hbyte
    rw [hnext] at hbyte
    rw [hmore byte hbyte]
    rfl
  · rfl

end Rounds

/-! ## The first byte of a character -/

theorem le_lead {v : Nat} (h : 128 ≤ v) : 128 ≤ lead v := by
  unfold lead trailing
  split_ifs <;> simp only [leadMark] <;> omega

/-- The first byte tells digits and the underscore from all other characters. -/
structure LeadsAs (radix : Radix) (c : Char) (byte : UInt8) (rest : List UInt8) : Prop where
  encoded : String.utf8EncodeChar c = byte :: rest
  isDigit : radix.isDigitByte byte = radix.isDigit c
  underscore : byte = underscoreByte ↔ c = '_'
  alone : c.toNat < 128 → rest = []

theorem isDigitByte_eq_false {byte : UInt8} (h : 128 ≤ byte.toNat) :
    radix.isDigitByte byte = false := by
  have hchar : (Char.ofUInt8 byte).toNat = byte.toNat := rfl
  apply Bool.eq_false_iff.mpr
  intro hdigit
  have hlt : (Char.ofUInt8 byte).toNat < 128 := toNat_lt_of_isDigit hdigit
  omega

theorem leadsAs_of_lt {c : Char} (h : c.toNat < 128) :
    LeadsAs radix c (UInt8.ofNat c.toNat) [] := by
  have hbyte : (UInt8.ofNat c.toNat).toNat = c.toNat := by
    rw [UInt8.toNat_ofNat', Nat.mod_eq_of_lt (h.trans (by decide))]
  have hchar : Char.ofUInt8 (UInt8.ofNat c.toNat) = c := Char.toNat_inj.mp hbyte
  refine ⟨?_, ?_, ?_, fun _ => rfl⟩
  · have htrailing : trailing c.toNat = 0 := if_pos (Nat.le_of_lt_succ h)
    rw [utf8EncodeChar_eq, lead, htrailing]
    simp [leadMark, continuation]
  · rw [isDigitByte, hchar]
  · constructor
    · intro hunderscore
      rw [← hchar, hunderscore]
      rfl
    · rintro rfl
      rfl

theorem leadsAs_of_ge {c : Char} (h : 128 ≤ c.toNat) :
    LeadsAs radix c (UInt8.ofNat (lead c.toNat)) (continuation c.toNat (trailing c.toNat)) := by
  have hlead : 128 ≤ (UInt8.ofNat (lead c.toNat)).toNat := by
    rw [UInt8.toNat_ofNat', Nat.mod_eq_of_lt (lead_lt_size (codePoint_lt c))]
    exact le_lead h
  refine ⟨utf8EncodeChar_eq c, ?_, ?_, fun hlt => absurd hlt (Nat.not_lt.mpr h)⟩
  · rw [isDigitByte_eq_false hlead, eq_comm, Bool.eq_false_iff]
    intro hdigit
    exact absurd (toNat_lt_of_isDigit hdigit) (Nat.not_lt.mpr h)
  · constructor
    · intro hunderscore
      rw [hunderscore] at hlead
      exact absurd hlead (by decide)
    · rintro rfl
      exact absurd h (by decide)

theorem exists_leadsAs (radix : Radix) (c : Char) : ∃ byte rest, LeadsAs radix c byte rest := by
  rcases Nat.lt_or_ge c.toNat 128 with hlt | hge
  · exact ⟨_, _, leadsAs_of_lt hlt⟩
  · exact ⟨_, _, leadsAs_of_ge hge⟩

/-! ## Bytes and characters are scanned alike -/

section Encoded

variable {c : Char} {cs rest : List Char} {front gap : List UInt8}

/-- The bytes of characters. -/
def encode (cs : List Char) : List UInt8 := cs.flatMap String.utf8EncodeChar

theorem exists_encode_digit (rest : List Char) (h : radix.isDigit c = true) :
    ∃ byte, radix.isDigitByte byte = true ∧ encode (c :: rest) = byte :: encode rest := by
  obtain ⟨byte, tail, hleads⟩ := exists_leadsAs radix c
  have htail : tail = [] := hleads.alone (toNat_lt_of_isDigit h)
  refine ⟨byte, hleads.isDigit.trans h, ?_⟩
  rw [encode, List.flatMap_cons, hleads.encoded, htail]
  rfl

theorem not_digit_of_head?_encode (h : radix.isDigit c = false) (rest : List Char) (byte : UInt8)
    (hbyte : (encode (c :: rest)).head? = some byte) : radix.isDigitByte byte = false := by
  obtain ⟨first, tail, hleads⟩ := exists_leadsAs radix c
  rw [encode, List.flatMap_cons, hleads.encoded] at hbyte
  cases hbyte
  exact hleads.isDigit.trans h

theorem head?_encode_ne_underscore (h : cs.head? ≠ some '_') :
    (encode cs).head? ≠ some underscoreByte := by
  cases cs with
  | nil => exact nofun
  | cons c rest =>
      obtain ⟨first, tail, hleads⟩ := exists_leadsAs .decimal c
      rw [encode, List.flatMap_cons, hleads.encoded]
      intro hfirst
      exact h (congrArg some (hleads.underscore.mp (Option.some.inj hfirst)))

theorem encode_underscore (rest : List Char) :
    encode ('_' :: rest) = [underscoreByte] ++ encode rest := rfl

/-- By the recursion of the measuring. At the start of each round both numbers of the scan are the
same, and what is measured from there on is added to them. -/
theorem scanDigits_encode (front : List UInt8) (cs : List Char) :
    radix.scanDigits (front ++ encode cs) front.length front.length =
      front.length + radix.digitRunLength cs := by
  fun_induction digitRunLength radix cs generalizing front with
  | case1 c rest hdigit ih =>
      obtain ⟨byte, hbyte, hencode⟩ := exists_encode_digit rest hdigit
      rw [encode_underscore, hencode, scanDigits_digit (.inl rfl) hbyte, ih]
      simp only [List.length_append, List.length_singleton]
      omega
  | case2 c rest hdigit =>
      have hnone : radix.isDigit c = false := by simpa using hdigit
      rw [encode_underscore, scanDigits_end (.inl rfl) (not_digit_of_head?_encode hnone rest)]
      rfl
  | case3 c rest hnot hdigit ih =>
      obtain ⟨byte, hbyte, hencode⟩ := exists_encode_digit rest hdigit
      have hgap : Skips [] (byte :: encode rest) := by
        refine .inr ⟨rfl, ?_⟩
        rw [← hencode]
        apply head?_encode_ne_underscore
        simpa using ne_underscore_of_isDigit hdigit
      rw [hencode, ← List.nil_append (byte :: encode rest), scanDigits_digit hgap hbyte, ih]
      simp only [List.length_append, List.length_singleton, List.length_nil]
      omega
  | case4 c rest hnot hdigit =>
      by_cases hunderscore : c = '_'
      · subst hunderscore
        cases rest with
        | nil =>
            rw [encode_underscore, scanDigits_end (.inl rfl) (by simp [encode])]
            rfl
        | cons d rest => exact absurd rfl (hnot d rest rfl)
      · have hgap : Skips [] (encode (c :: rest)) :=
          .inr ⟨rfl, head?_encode_ne_underscore (by simpa using hunderscore)⟩
        have hnone : radix.isDigit c = false := by simpa using hdigit
        rw [← List.nil_append (encode (c :: rest)),
          scanDigits_end hgap (not_digit_of_head?_encode hnone rest)]
        rfl
  | case5 =>
      have hgap : Skips [] (encode []) := .inr ⟨rfl, head?_encode_ne_underscore (by simp)⟩
      exact scanDigits_end hgap (by simp [encode])

theorem digitRunBytes_utf8 (radix : Radix) (text : String) :
    radix.digitRunBytes (utf8 text) = radix.digitRunLength text.toList := by
  have hscan : radix.scanDigits ([] ++ encode text.toList) 0 0 =
      0 + radix.digitRunLength text.toList := scanDigits_encode [] text.toList
  rw [List.nil_append, Nat.zero_add] at hscan
  rw [digitRunBytes, utf8_eq]
  exact hscan

end Encoded

/-! ## The longest run -/

section Runs

variable {run : List Char}

/-- The characters of a run have one byte each. -/
theorem utf8ByteSize_digitRun (h : DigitRun radix run) :
    (String.ofList run).utf8ByteSize = run.length := by
  have hdigit : ∀ c, radix.isDigit c = true → c.utf8Size = 1 := by
    intro c hc
    exact Char.utf8Size_eq_one_iff.mpr (Nat.le_of_lt_succ (toNat_lt_of_isDigit hc))
  have hunderscore : Char.utf8Size '_' = 1 := rfl
  rw [String.utf8ByteSize_ofList]
  induction h with
  | digit hc => simp only [String.utf8Len, hdigit _ hc, List.length_singleton]
  | separated hc =>
      simp only [String.utf8Len, hdigit _ hc, hunderscore, List.length_cons, List.length_nil]
  | append _ _ ihl ihr => rw [String.utf8Len_append, ihl, ihr, List.length_append]

theorem exists_last_of_digitRun (h : DigitRun radix run) :
    ∃ front c, run = front ++ [c] ∧ radix.isDigit c = true := by
  induction h with
  | digit hc => exact ⟨[], _, rfl, hc⟩
  | separated hc => exact ⟨['_'], _, rfl, hc⟩
  | @append left _ _ _ _ ihr =>
      obtain ⟨front, c, rfl, hc⟩ := ihr
      exact ⟨left ++ front, c, (List.append_assoc left front [c]).symm, hc⟩

theorem digitRunLength_eq_zero_of_head? {cs : List Char}
    (h : ∀ c, cs.head? = some c → radix.isDigit c = false ∧ c ≠ '_') :
    radix.digitRunLength cs = 0 := by
  rw [digitRunLength_eq_zero_iff]
  intro c hdigit
  constructor
  · rintro ⟨rest, rfl⟩
    rw [(h c rfl).1] at hdigit
    cases hdigit
  · rintro ⟨rest, rfl⟩
    exact (h '_' rfl).2 rfl

end Runs

/-- The size in bytes is that of the longest run of digits at the start of the text, if there is
any. -/
structure MeasuresLongestRun (radix : Radix) (text : String) (size : Nat) : Prop where
  /-- What is measured are whole characters, the last of which is a digit. -/
  run : 0 < size → ∃ (front : String) (last : Char) (rest : String),
    text = front.push last ++ rest ∧ DigitRun radix (front.push last).toList ∧
      radix.isDigit last = true ∧ last ≠ '_' ∧ (front.push last).utf8ByteSize = size
  longest : ∀ run rest : String, text = run ++ rest → DigitRun radix run.toList →
    run.utf8ByteSize ≤ size
  zero : size = 0 ↔ ∀ run rest : String, text = run ++ rest → ¬ DigitRun radix run.toList
  /-- Nothing is added to text that was measured as a whole unless a run may go on behind it. -/
  whole : size = text.utf8ByteSize → ∀ more : String,
    (∀ c, more.toList.head? = some c → radix.isDigit c = false ∧ c ≠ '_') →
      radix.digitRunBytes (utf8 (text ++ more)) = size

section Measured

variable {text : String}

theorem exists_run_of_pos (h : 0 < radix.digitRunLength text.toList) :
    ∃ run rest : String, text = run ++ rest ∧ DigitRun radix run.toList ∧
      run.utf8ByteSize = radix.digitRunLength text.toList := by
  have hrun := digitRun_take h
  refine ⟨.ofList (text.toList.take (radix.digitRunLength text.toList)),
    .ofList (text.toList.drop (radix.digitRunLength text.toList)), ?_, ?_, ?_⟩
  · rw [← String.ofList_append, List.take_append_drop, String.ofList_toList]
  · rwa [String.toList_ofList]
  · rw [utf8ByteSize_digitRun hrun]
    exact List.length_take_of_le (radix.digitRunLength_le _)

theorem utf8ByteSize_le {run rest : String} (htext : text = run ++ rest)
    (hrun : DigitRun radix run.toList) :
    run.utf8ByteSize ≤ radix.digitRunLength text.toList := by
  have hsize := utf8ByteSize_digitRun hrun
  rw [String.ofList_toList] at hsize
  rw [hsize, htext, String.toList_append]
  exact hrun.length_le (List.prefix_append _ _)

theorem digitRunLength_append_of_whole
    (hwhole : radix.digitRunLength text.toList = text.utf8ByteSize) {more : String}
    (hmore : ∀ c, more.toList.head? = some c → radix.isDigit c = false ∧ c ≠ '_') :
    radix.digitRunLength (text ++ more).toList = radix.digitRunLength text.toList := by
  have hnone : radix.digitRunLength more.toList = 0 := digitRunLength_eq_zero_of_head? hmore
  rcases Nat.eq_zero_or_pos (radix.digitRunLength text.toList) with hzero | hpos
  · have hempty : text = "" := String.utf8ByteSize_eq_zero_iff.mp (hwhole.symm.trans hzero)
    subst hempty
    rw [String.empty_append, hnone, hzero]
  · obtain ⟨run, rest, htext, hrun, hsize⟩ := exists_run_of_pos hpos
    have hrest : rest = "" := by
      apply String.utf8ByteSize_eq_zero_iff.mp
      have hsum : text.utf8ByteSize = run.utf8ByteSize + rest.utf8ByteSize := by
        rw [htext, String.utf8ByteSize_append]
      omega
    subst hrest
    rw [String.append_empty] at htext
    subst htext
    have hself : radix.digitRunLength text.toList = text.toList.length := by
      have happend := hrun.digitRunLength_append []
      rwa [List.append_nil] at happend
    rw [String.toList_append, hrun.digitRunLength_append, hnone, hself, Nat.add_zero]

end Measured

/-- The scan of the bytes of a text measures what the tokenizer measures on its characters: the
longest run of digits at the start of the text. -/
theorem digitRunBytes_measures_longest (radix : Radix) (text : String) :
    radix.digitRunBytes (utf8 text) = radix.digitRunLength text.toList ∧
      MeasuresLongestRun radix text (radix.digitRunBytes (utf8 text)) := by
  rw [digitRunBytes_utf8]
  refine ⟨rfl, ?_, ?_, ?_, ?_⟩
  · intro hpos
    obtain ⟨run, rest, htext, hrun, hsize⟩ := exists_run_of_pos hpos
    obtain ⟨front, last, hlast, hdigit⟩ := exists_last_of_digitRun hrun
    have hpush : run = (String.ofList front).push last := by
      rw [← String.toList_inj, hlast]
      simp
    rw [hpush] at htext hrun hsize
    exact ⟨.ofList front, last, rest, htext, hrun, hdigit, ne_underscore_of_isDigit hdigit, hsize⟩
  · intro run rest
    exact utf8ByteSize_le
  · constructor
    · intro hzero run rest htext hrun
      have hle := utf8ByteSize_le htext hrun
      have hne := hrun.ne_nil
      rw [hzero, Nat.le_zero, String.utf8ByteSize_eq_zero_iff] at hle
      rw [hle] at hne
      exact hne rfl
    · intro hnone
      apply Nat.eq_zero_of_not_pos
      intro hpos
      obtain ⟨run, rest, htext, hrun, -⟩ := exists_run_of_pos hpos
      exact hnone run rest htext hrun
  · intro hwhole more hmore
    rw [digitRunBytes_utf8, digitRunLength_append_of_whole hwhole hmore]

end FieldPredicate.Radix
