import Mathlib.Data.List.Basic
import Mathlib.Data.List.TakeWhile
import QueryWire.Proofs.Text.Character

/-!
The strict reading of UTF-8 is the inverse of the encoding: octets are read as a text exactly if
they are the encoding of that text. In particular a text has one encoding only, and what is no
encoding of any text is not read. The lenient reading agrees with it as far as the octets are
well-formed.
-/

namespace QueryWire.Utf8

def secondOfThree (first : Nat) : Nat × Nat :=
  (if first = 0xE0 then 0xA0 else 0x80, if first = 0xED then 0x9F else 0xBF)

def secondOfFour (first : Nat) : Nat × Nat :=
  (if first = 0xF0 then 0x90 else 0x80, if first = 0xF4 then 0x8F else 0xBF)

theorem secondOfThree_iff (first second : Nat) :
    (secondOfThree first).1 ≤ second ∧ second ≤ (secondOfThree first).2 ↔
      (0x80 ≤ second ∧ second ≤ 0xBF) ∧ (first = 0xE0 → 0xA0 ≤ second) ∧
        (first = 0xED → second ≤ 0x9F) := by
  unfold secondOfThree
  split <;> split <;> omega

theorem secondOfFour_iff (first second : Nat) :
    (secondOfFour first).1 ≤ second ∧ second ≤ (secondOfFour first).2 ↔
      (0x80 ≤ second ∧ second ≤ 0xBF) ∧ (first = 0xF0 → 0x90 ≤ second) ∧
        (first = 0xF4 → second ≤ 0x8F) := by
  unfold secondOfFour
  split <;> split <;> omega

theorem lead_one (first : Nat) (most : first < 0x80) :
    lead first = ([some (.ofNat first)], .start) :=
  if_pos most

theorem lead_two (first : Nat) (least : 0xC2 ≤ first) (most : first < 0xE0) :
    lead first = ([], .owing 1 0x80 0xBF (first - 0xC0)) := by
  rw [lead, if_neg (by omega), if_neg (by omega), if_pos most]

theorem lead_three (first : Nat) (least : 0xE0 ≤ first) (most : first < 0xF0) :
    lead first =
      ([], .owing 2 (secondOfThree first).1 (secondOfThree first).2 (first - 0xE0)) := by
  rw [lead, if_neg (by omega), if_neg (by omega), if_neg (by omega)]
  by_cases short : first = 0xE0
  · subst short
    rfl
  · by_cases surrogate : first = 0xED
    · subst surrogate
      rfl
    · simp only [short, surrogate, most, ↓reduceIte, secondOfThree]

theorem lead_four (first : Nat) (least : 0xF0 ≤ first) (most : first ≤ 0xF4) :
    lead first = ([], .owing 3 (secondOfFour first).1 (secondOfFour first).2 (first - 0xF0)) := by
  rw [lead, if_neg (by omega), if_neg (by omega), if_neg (by omega), if_neg (by omega),
    if_neg (by omega), if_neg (by omega)]
  by_cases short : first = 0xF0
  · subst short
    rfl
  · by_cases last : first = 0xF4
    · subst last
      rfl
    · have inner : first < 0xF4 := by omega
      simp only [short, last, inner, ↓reduceIte, secondOfFour]

theorem lead_none (first : Nat)
    (bad : 0x80 ≤ first ∧ first < 0xC2 ∨ 0xF4 < first) : lead first = ([none], .start) := by
  unfold lead
  repeat' split
  all_goals first | rfl | omega

theorem scanFrom_start (octet : UInt8) (rest : Octets) (pieces : List (Option CodePoint))
    (next : State) (led : lead octet.toNat = (pieces, next)) :
    scanFrom .start (octet :: rest) = pieces ++ scanFrom next rest := by
  simp only [scanFrom, step, led]

theorem scanFrom_more (count low high value : Nat) (octet : UInt8) (rest : Octets)
    (many : 1 < count) (least : low ≤ octet.toNat) (most : octet.toNat ≤ high) :
    scanFrom (.owing count low high value) (octet :: rest) =
      scanFrom (.owing (count - 1) 0x80 0xBF (value * 64 + (octet.toNat - 0x80))) rest := by
  simp only [scanFrom, step, least, most, and_self, ↓reduceIte, Nat.not_le.mpr many,
    List.nil_append]

theorem scanFrom_last (low high value : Nat) (octet : UInt8) (rest : Octets)
    (least : low ≤ octet.toNat) (most : octet.toNat ≤ high) :
    scanFrom (.owing 1 low high value) (octet :: rest) =
      some (.ofNat (value * 64 + (octet.toNat - 0x80))) :: scanFrom .start rest := by
  simp only [scanFrom, step, least, most, and_self, ↓reduceIte, Nat.le_refl, List.cons_append,
    List.nil_append]

theorem scan_two (a b : UInt8) (rest : Octets) (first : 0xC2 ≤ a.toNat ∧ a.toNat < 0xE0)
    (second : 0x80 ≤ b.toNat ∧ b.toNat ≤ 0xBF) :
    scanFrom .start (a :: b :: rest) =
      some (.ofNat ((a.toNat - 0xC0) * 64 + (b.toNat - 0x80))) :: scanFrom .start rest := by
  rw [scanFrom_start _ _ _ _ (lead_two _ first.1 first.2), List.nil_append,
    scanFrom_last _ _ _ _ _ second.1 second.2]

theorem scan_three (a b c : UInt8) (rest : Octets) (first : 0xE0 ≤ a.toNat ∧ a.toNat < 0xF0)
    (second : (secondOfThree a.toNat).1 ≤ b.toNat ∧ b.toNat ≤ (secondOfThree a.toNat).2)
    (third : 0x80 ≤ c.toNat ∧ c.toNat ≤ 0xBF) :
    scanFrom .start (a :: b :: c :: rest) =
      some (.ofNat (((a.toNat - 0xE0) * 64 + (b.toNat - 0x80)) * 64 + (c.toNat - 0x80))) ::
        scanFrom .start rest := by
  rw [scanFrom_start _ _ _ _ (lead_three _ first.1 first.2), List.nil_append,
    scanFrom_more _ _ _ _ _ _ (by decide) second.1 second.2,
    scanFrom_last _ _ _ _ _ third.1 third.2]

theorem scan_four (a b c d : UInt8) (rest : Octets) (first : 0xF0 ≤ a.toNat ∧ a.toNat ≤ 0xF4)
    (second : (secondOfFour a.toNat).1 ≤ b.toNat ∧ b.toNat ≤ (secondOfFour a.toNat).2)
    (third : 0x80 ≤ c.toNat ∧ c.toNat ≤ 0xBF) (fourth : 0x80 ≤ d.toNat ∧ d.toNat ≤ 0xBF) :
    scanFrom .start (a :: b :: c :: d :: rest) =
      some (.ofNat ((((a.toNat - 0xF0) * 64 + (b.toNat - 0x80)) * 64 + (c.toNat - 0x80)) * 64 +
        (d.toNat - 0x80))) :: scanFrom .start rest := by
  rw [scanFrom_start _ _ _ _ (lead_four _ first.1 first.2), List.nil_append,
    scanFrom_more _ _ _ _ _ _ (by decide) second.1 second.2,
    scanFrom_more _ _ _ _ _ _ (by decide) third.1 third.2,
    scanFrom_last _ _ _ _ _ fourth.1 fourth.2]

theorem scanFrom_encodePoint (point : CodePoint) (scalar : point.isSurrogate = false)
    (rest : Octets) :
    scanFrom .start (encodePoint point ++ rest) = some point :: scanFrom .start rest := by
  have bound := point.isLt
  have notSurrogate : ¬(0xD800 ≤ point.val ∧ point.val ≤ 0xDFFF) := by
    rw [← isSurrogate_iff, scalar]
    exact Bool.false_ne_true
  have same {n : Nat} (value : n = point.val) : CodePoint.ofNat n = point := by
    simp only [CodePoint.ofNat, value, bound, ↓reduceDIte]
  have octet {n : Nat} (small : n < 256) := toNat_ofNat_of_lt small
  by_cases one : point.val < 0x80
  · have first := octet (n := point.val) (by omega)
    rw [encodePoint_one point one, List.cons_append, scanFrom_start _ _ _ _ (lead_one _ (by omega)),
      same first]
    rfl
  by_cases two : point.val < 0x800
  · have first := octet (n := 0xC0 + point.val / 64) (by omega)
    have second := octet (n := 0x80 + point.val % 64) (by omega)
    rw [encodePoint_two point (by omega) two]
    simp only [List.cons_append, List.nil_append]
    rw [scan_two _ _ _ (by omega) (by omega), same (by omega)]
  by_cases three : point.val < 0x10000
  · have first := octet (n := 0xE0 + point.val / 4096) (by omega)
    have second := octet (n := 0x80 + point.val / 64 % 64) (by omega)
    have third := octet (n := 0x80 + point.val % 64) (by omega)
    rw [encodePoint_three point (by omega) three]
    simp only [List.cons_append, List.nil_append]
    rw [scan_three _ _ _ _ (by omega) ((secondOfThree_iff _ _).mpr (by omega)) (by omega),
      same (by omega)]
  · have first := octet (n := 0xF0 + point.val / 262144) (by omega)
    have second := octet (n := 0x80 + point.val / 4096 % 64) (by omega)
    have third := octet (n := 0x80 + point.val / 64 % 64) (by omega)
    have fourth := octet (n := 0x80 + point.val % 64) (by omega)
    rw [encodePoint_four point (by omega)]
    simp only [List.cons_append, List.nil_append]
    rw [scan_four _ _ _ _ _ (by omega) ((secondOfFour_iff _ _).mpr (by omega)) (by omega)
      (by omega), same (by omega)]

/-- Where a character is owed, there is a broken piece or an octet that may follow. -/
theorem owing_cases (count low high value : Nat) (octets : Octets) :
    (∃ pieces, scanFrom (.owing count low high value) octets = none :: pieces) ∨
      ∃ octet rest, octets = octet :: rest ∧ low ≤ octet.toNat ∧ octet.toNat ≤ high := by
  cases octets with
  | nil => exact .inl ⟨[], rfl⟩
  | cons octet rest =>
    by_cases within : low ≤ octet.toNat ∧ octet.toNat ≤ high
    · exact .inr ⟨octet, rest, rfl, within⟩
    · simp only [scanFrom, step, within, ↓reduceIte, List.cons_append]
      exact .inl ⟨_, rfl⟩

/-- Octets start with a broken piece or with a character. -/
theorem start_cases (octet : UInt8) (octets : Octets) :
    (∃ pieces, scanFrom .start (octet :: octets) = none :: pieces) ∨
      ∃ character rest, Character character ∧ octet :: octets = character ++ rest := by
  by_cases one : octet.toNat < 0x80
  · exact .inr ⟨[octet], octets, .one one, rfl⟩
  by_cases bad : octet.toNat < 0xC2 ∨ 0xF4 < octet.toNat
  · exact .inl ⟨_, scanFrom_start _ _ _ _ (lead_none _ (by omega))⟩
  by_cases two : octet.toNat < 0xE0
  · rw [scanFrom_start _ _ _ _ (lead_two _ (by omega) two), List.nil_append]
    obtain broken | ⟨b, rest, rfl, second⟩ := owing_cases 1 0x80 0xBF (octet.toNat - 0xC0) octets
    · exact .inl broken
    · exact .inr ⟨[octet, b], rest, .two (by omega) two second, rfl⟩
  by_cases three : octet.toNat < 0xF0
  · rw [scanFrom_start _ _ _ _ (lead_three _ (by omega) three), List.nil_append]
    obtain broken | ⟨b, octets, rfl, second⟩ := owing_cases 2 (secondOfThree octet.toNat).1
      (secondOfThree octet.toNat).2 (octet.toNat - 0xE0) octets
    · exact .inl broken
    rw [scanFrom_more _ _ _ _ _ _ (by decide) second.1 second.2]
    obtain broken | ⟨c, rest, rfl, third⟩ := owing_cases 1 0x80 0xBF _ octets
    · exact .inl broken
    obtain ⟨continues, shortest, scalar⟩ := (secondOfThree_iff _ _).mp second
    exact .inr ⟨[octet, b, c], rest, .three (by omega) three continues third shortest scalar, rfl⟩
  · rw [scanFrom_start _ _ _ _ (lead_four _ (by omega) (by omega)), List.nil_append]
    obtain broken | ⟨b, octets, rfl, second⟩ := owing_cases 3 (secondOfFour octet.toNat).1
      (secondOfFour octet.toNat).2 (octet.toNat - 0xF0) octets
    · exact .inl broken
    rw [scanFrom_more _ _ _ _ _ _ (by decide) second.1 second.2]
    obtain broken | ⟨c, octets, rfl, third⟩ := owing_cases 2 0x80 0xBF _ octets
    · exact .inl broken
    rw [scanFrom_more _ _ _ _ _ _ (by decide) third.1 third.2]
    obtain broken | ⟨d, rest, rfl, fourth⟩ := owing_cases 1 0x80 0xBF _ octets
    · exact .inl broken
    obtain ⟨continues, shortest, bounded⟩ := (secondOfFour_iff _ _).mp second
    exact .inr ⟨[octet, b, c, d], rest,
      .four (by omega) (by omega) continues third fourth shortest bounded, rfl⟩

/-- The octets of a text without surrogates are scanned as its characters. -/
theorem scan_append (text : Text) (scalar : ∀ point ∈ text, point.isSurrogate = false)
    (rest : Octets) :
    scan (text.flatMap encodePoint ++ rest) = text.map some ++ scan rest := by
  induction text with
  | nil => rfl
  | cons point text ih =>
    rw [List.forall_mem_cons] at scalar
    rw [scan, List.flatMap_cons, List.append_assoc, scanFrom_encodePoint point scalar.1]
    exact congrArg _ (ih scalar.2)

theorem scan_flatMap (text : Text) (scalar : ∀ point ∈ text, point.isSurrogate = false) :
    scan (text.flatMap encodePoint) = text.map some := by
  have scanned := scan_append text scalar []
  rwa [List.append_nil, scan, scan, scanFrom, List.append_nil] at scanned

/-- Octets begin with those of a text, and end there or go on with a broken piece. -/
theorem exists_text_append (octets : Octets) :
    ∃ (text : Text) (rest : Octets), (∀ point ∈ text, point.isSurrogate = false) ∧
      octets = text.flatMap encodePoint ++ rest ∧
      (rest = [] ∨ ∃ pieces, scan rest = none :: pieces) := by
  induction size : octets.length using Nat.strongRecOn generalizing octets with
  | ind n ih =>
    cases octets with
    | nil => exact ⟨[], [], nofun, rfl, .inl rfl⟩
    | cons octet octets =>
      obtain broken | ⟨character, behind, whole, same⟩ := start_cases octet octets
      · exact ⟨[], octet :: octets, nofun, rfl, .inr broken⟩
      · obtain ⟨point, scalar, rfl⟩ := whole.exists_point
        have shorter : behind.length < n := by
          rw [← size, same, List.length_append]
          exact Nat.lt_add_of_pos_left (List.length_pos_iff.mpr (encodePoint_ne_nil point))
        obtain ⟨text, rest, others, found, ends⟩ := ih behind.length shorter behind rfl
        refine ⟨point :: text, rest, List.forall_mem_cons.mpr ⟨scalar, others⟩, ?_, ends⟩
        rw [same, found, List.flatMap_cons, List.append_assoc]

theorem exists_text (octets : Octets) (unbroken : none ∉ scan octets) :
    ∃ text : Text, (∀ point ∈ text, point.isSurrogate = false) ∧
      octets = text.flatMap encodePoint := by
  obtain ⟨text, rest, scalar, rfl, rfl | ⟨pieces, broken⟩⟩ := exists_text_append octets
  · exact ⟨text, scalar, List.append_nil _⟩
  · rw [scan_append text scalar, broken] at unbroken
    exact (unbroken (List.mem_append_right _ (.head _))).elim

theorem encode_eq_ok_iff (text : Text) (octets : Octets) :
    encode text = .ok octets ↔
      (∀ point ∈ text, point.isSurrogate = false) ∧ octets = text.flatMap encodePoint := by
  unfold encode
  split
  next none =>
    have scalar := List.dropWhile_eq_nil_iff.mp none
    constructor
    · intro encoded
      cases encoded
      exact ⟨fun point member => by simpa using scalar point member, rfl⟩
    · rintro ⟨-, rfl⟩
      rfl
  next found =>
    constructor
    · intro encoded
      nomatch encoded
    · rintro ⟨scalar, -⟩
      refine (found ?_).elim
      exact List.dropWhile_eq_nil_iff.mpr fun point member => by simp [scalar point member]

theorem encode_append (first second : Text) (front back : Octets)
    (encoded : encode first = .ok front) (encoded' : encode second = .ok back) :
    encode (first ++ second) = .ok (front ++ back) := by
  rw [encode_eq_ok_iff] at encoded encoded' ⊢
  obtain ⟨scalar, rfl⟩ := encoded
  obtain ⟨scalar', rfl⟩ := encoded'
  exact ⟨List.forall_mem_append.mpr ⟨scalar, scalar'⟩, List.flatMap_append.symm⟩

/-- Octets are read as a text exactly if they are its encoding. -/
theorem decode?_eq_some_iff (octets : Octets) (text : Text) :
    decode? octets = some text ↔ encode text = .ok octets := by
  rw [encode_eq_ok_iff, decode?]
  constructor
  · intro read
    split at read
    next whole =>
      have unbroken : none ∉ scan octets := fun broken =>
        nomatch List.all_eq_true.mp whole none broken
      obtain ⟨found, scalar, rfl⟩ := exists_text octets unbroken
      rw [scan_flatMap found scalar] at read
      have same : found = text := by simpa using read
      exact ⟨same ▸ scalar, by rw [same]⟩
    next => nomatch read
  · rintro ⟨scalar, rfl⟩
    rw [scan_flatMap text scalar]
    simp

theorem decodeReplacing_of_encode (text : Text) (octets : Octets)
    (encoded : encode text = .ok octets) : decodeReplacing octets = text := by
  obtain ⟨scalar, rfl⟩ := (encode_eq_ok_iff text octets).mp encoded
  rw [decodeReplacing, scan_flatMap text scalar, List.map_map]
  exact List.map_id text

theorem wellFormed_iff_encode (octets : Octets) :
    WellFormed octets ↔ ∃ text, encode text = .ok octets := by
  simp only [wellFormed_iff, encode_eq_ok_iff]

theorem decode?_eq_none_iff (octets : Octets) : decode? octets = none ↔ ¬WellFormed octets := by
  simp only [wellFormed_iff_encode, ← decode?_eq_some_iff, Option.eq_none_iff_forall_ne_some,
    not_exists, ne_eq]

structure LongestWellFormed (start octets : Octets) : Prop where
  begins : start <+: octets
  wellFormed : WellFormed start
  longest : ∀ other, other <+: octets → WellFormed other → other.length ≤ start.length

theorem prefix_of_scan {first second : Text} {rest pieces : List (Option CodePoint)}
    (same : first.map some ++ rest = second.map some ++ none :: pieces) : first <+: second := by
  have injective : Function.Injective (List.map (@some CodePoint)) :=
    List.map_injective_iff.mpr fun _ _ => Option.some.inj
  obtain ⟨between, split, -⟩ | ⟨between, split, behind⟩ := List.append_eq_append_iff.mp same
  · obtain ⟨front, back, rfl, found, -⟩ := List.map_eq_append_iff.mp split
    rw [← injective found]
    exact List.prefix_append front back
  · cases between with
    | nil =>
      rw [List.append_nil] at split
      obtain rfl := injective split
      exact List.prefix_rfl
    | cons piece between =>
      obtain ⟨rfl, -⟩ := List.cons.inj behind
      have among : none ∈ first.map some := split ▸ List.mem_append_right _ (.head _)
      simp at among

/-- The lenient reading goes as far as the octets are well-formed, and puts a replacement there. -/
theorem decodeReplacing_of_broken (octets : Octets) (broken : ¬WellFormed octets) :
    ∃ start text rest, LongestWellFormed start octets ∧ encode text = .ok start ∧
      decodeReplacing octets = text ++ .replacement :: rest := by
  obtain ⟨text, behind, scalar, rfl, rfl | ⟨pieces, found⟩⟩ := exists_text_append octets
  · rw [List.append_nil, wellFormed_iff] at broken
    exact (broken ⟨text, scalar, rfl⟩).elim
  · have scanned := scan_append text scalar behind
    rw [found] at scanned
    refine ⟨text.flatMap encodePoint, text, pieces.map (·.getD .replacement), ⟨?_, ?_, ?_⟩,
      (encode_eq_ok_iff text _).mpr ⟨scalar, rfl⟩, ?_⟩
    · exact List.prefix_append _ behind
    · exact (wellFormed_iff _).mpr ⟨text, scalar, rfl⟩
    · rintro _ ⟨tail, same⟩ wellFormed
      obtain ⟨other, scalar', rfl⟩ := (wellFormed_iff _).mp wellFormed
      rw [← same, scan_append other scalar'] at scanned
      obtain ⟨back, rfl⟩ := prefix_of_scan scanned
      rw [List.flatMap_append, List.length_append]
      exact Nat.le_add_right _ _
    · rw [decodeReplacing, scanned, List.map_append, List.map_map, List.map_cons]
      exact congrArg (· ++ _) (List.map_id text)

end QueryWire.Utf8

namespace QueryWire

def Text.HasSurrogate (text : Text) : Prop := ∃ point ∈ text, point.isSurrogate = true

instance (text : Text) : Decidable text.HasSurrogate :=
  inferInstanceAs (Decidable (∃ point ∈ text, point.isSurrogate = true))

@[simp] theorem Text.hasSurrogate_nil : ¬HasSurrogate [] := nofun

@[simp] theorem Text.hasSurrogate_cons (point : CodePoint) (text : Text) :
    HasSurrogate (point :: text) ↔ point.isSurrogate = true ∨ text.HasSurrogate := by
  simp only [HasSurrogate, List.mem_cons, exists_eq_or_imp]

@[simp] theorem Text.hasSurrogate_append (first second : Text) :
    HasSurrogate (first ++ second) ↔ first.HasSurrogate ∨ second.HasSurrogate := by
  simp only [HasSurrogate, List.mem_append, or_and_right, exists_or]

theorem Text.HasSurrogate.of_subset {part whole : Text} (broken : part.HasSurrogate)
    (included : part ⊆ whole) : whole.HasSurrogate := by
  obtain ⟨point, member, surrogate⟩ := broken
  exact ⟨point, included member, surrogate⟩

namespace Utf8

def Encodable (text : Text) : Prop := ∃ octets, encode text = .ok octets

theorem encodable_iff (text : Text) : Encodable text ↔ ¬text.HasSurrogate := by
  simp only [Encodable, encode_eq_ok_iff, exists_and_left, exists_eq, and_true, Text.HasSurrogate,
    not_exists, not_and, Bool.not_eq_true]

theorem encodable_append (first second : Text) :
    Encodable (first ++ second) ↔ Encodable first ∧ Encodable second := by
  simp only [encodable_iff, Text.hasSurrogate_append, not_or]

end Utf8

end QueryWire
