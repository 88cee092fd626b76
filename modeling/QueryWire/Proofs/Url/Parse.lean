import QueryWire.Proofs.Text.Parts
import QueryWire.Proofs.Text.Utf8
import QueryWire.Url.Parse

/-!
Where the reading of a url stumbles. Quoting fails on a surrogate and on nothing else, so a text
that is otherwise fit to be a url is not read if a surrogate stands in its userinfo, its path, its
query or its fragment. A text without surrogates is read as a url or refused with a reason.
-/

namespace QueryWire.Url

theorem isSurrogate_of_lt {point : CodePoint} (small : point.val < 0xD800) :
    point.isSurrogate = false := by
  rw [Bool.eq_false_iff, ne_eq, Utf8.isSurrogate_iff]
  omega

def Scalar (safe : CodePoint → Bool) : Prop :=
  ∀ point, safe point = true → point.isSurrogate = false

theorem scalar_within (low high : Nat) (small : high < 0xD800) : Scalar (·.within low high) := by
  intro point safe
  exact isSurrogate_of_lt (Nat.lt_of_le_of_lt ((point.within_iff _ _).mp safe).2 small)

theorem scalar_unreserved : Scalar isUnreserved := by
  intro point safe
  apply isSurrogate_of_lt
  simp only [isUnreserved, CodePoint.isLetter, CodePoint.isDigit, CodePoint.is, Bool.or_eq_true,
    CodePoint.within_iff, beq_iff_eq, Char.reduceToNat] at safe
  omega

theorem scalar_printableExcept (characters : String) : Scalar (printableExcept characters) := by
  intro point safe
  exact scalar_within 0x21 0x7E (by decide) point (Bool.and_eq_true_iff.mp safe).1

theorem scalar_userinfo : Scalar safeInUserinfo := by
  intro point safe
  exact scalar_printableExcept _ point (Bool.and_eq_true_iff.mp safe).1

theorem scalar_host : Scalar safeInHost := by
  intro point safe
  apply isSurrogate_of_lt
  simp [safeInHost, oneOf, CodePoint.is] at safe
  omega

theorem scalar_hexDigit : Scalar (·.hexValue?.isSome) := by
  intro point digit
  apply isSurrogate_of_lt
  by_contra large
  have outside (low high : Nat) (small : high < 0xD800) : point.within low high = false := by
    rw [Bool.eq_false_iff, ne_eq, point.within_iff]
    omega
  simp [CodePoint.hexValue?, outside] at digit

variable {safe : CodePoint → Bool}

theorem quotePoint?_eq_none_iff (scalar : Scalar safe) (point : CodePoint) :
    quotePoint? safe point = none ↔ point.isSurrogate = true := by
  rw [quotePoint?]
  split
  next kept =>
    have plain : point.isSurrogate = false := by
      rcases Bool.or_eq_true_iff.mp kept with kept | kept
      · exact scalar_unreserved point kept
      · exact scalar point kept
    simp [plain]
  next =>
    rw [escapePoint?]
    split
    next broken => simp [broken]
    next plain => simp [plain]

theorem bind_append_eq_none_iff (first second : Option Text) :
    (do some ((← first) ++ (← second)) : Option Text) = none ↔ first = none ∨ second = none := by
  cases first <;> cases second <;> simp

/-- Quoting fails on surrogates and on nothing else. -/
theorem quote?_eq_none_iff (scalar : Scalar safe) (text : Text) :
    quote? safe text = none ↔ text.HasSurrogate := by
  fun_induction quote? safe text with
  | case1 a b c rest escape ih =>
    -- An escape is made of a percent sign and two digits, so it is kept as it is.
    obtain ⟨⟨mark, high⟩, low⟩ : (a.is '%' = true ∧ b.hexValue?.isSome = true) ∧
        c.hexValue?.isSome = true := by simpa [isEscape] using escape
    have plain : a.isSurrogate = false := by
      apply isSurrogate_of_lt
      rw [beq_iff_eq.mp mark]
      decide
    simp [ih, plain, scalar_hexDigit b high, scalar_hexDigit c low]
  | case2 a b c rest _ ih =>
    rw [bind_append_eq_none_iff, quotePoint?_eq_none_iff scalar, ih, Text.hasSurrogate_cons a]
  | case3 a rest _ ih =>
    rw [bind_append_eq_none_iff, quotePoint?_eq_none_iff scalar, ih, Text.hasSurrogate_cons a]
  | case4 => simp

theorem quotePart_cases (scalar : Scalar safe) (part : Text) :
    part.HasSurrogate ∧ quotePart safe part = .error .unencodable ∨
      ¬part.HasSurrogate ∧ ∃ quoted, quotePart safe part = .ok quoted := by
  rw [quotePart, ← quote?_eq_none_iff scalar]
  cases quote? safe part with
  | none => exact .inl ⟨rfl, rfl⟩
  | some quoted => exact .inr ⟨nofun, quoted, rfl⟩

theorem quoteOptional_cases (scalar : Scalar safe) (part : Option Text) :
    (∃ written, part = some written ∧ written.HasSurrogate) ∧
        quoteOptional safe part = .error .unencodable ∨
      (¬∃ written, part = some written ∧ written.HasSurrogate) ∧
        ∃ quoted, quoteOptional safe part = .ok quoted := by
  cases part with
  | none => exact .inr ⟨nofun, none, rfl⟩
  | some written =>
    rw [quoteOptional]
    obtain ⟨broken, stopped⟩ | ⟨whole, quoted, done⟩ := quotePart_cases scalar written
    · exact .inl ⟨⟨written, rfl, broken⟩, by rw [stopped]; rfl⟩
    · refine .inr ⟨?_, some quoted, by rw [done]; rfl⟩
      rintro ⟨_, ⟨⟩, broken⟩
      exact whole broken

theorem isSurrogate_toLowerAscii {point : CodePoint} (ascii : point.isAscii = true) :
    point.toLowerAscii.isSurrogate = false := by
  have small : point.val < 0x80 := of_decide_eq_true ascii
  apply isSurrogate_of_lt
  rw [CodePoint.toLowerAscii]
  split
  · rw [CodePoint.ofNat, dif_pos (by omega)]
    change point.val + 0x20 < 0xD800
    omega
  · omega

theorem normalHost_ne_unencodable [Platform] (host : Text) :
    normalHost host ≠ .error .unencodable := by
  rw [normalHost]
  split
  · nofun
  split
  · split <;> nofun
  split
  · dsimp only
    split <;> nofun
  split
  next ascii =>
    split
    next => nofun
    next unquoted =>
      obtain ⟨_, lowered, surrogate⟩ := (quote?_eq_none_iff scalar_host _).mp unquoted
      obtain ⟨point, member, rfl⟩ := List.mem_map.mp lowered
      rw [isSurrogate_toLowerAscii (List.all_eq_true.mp ascii point member)] at surrogate
      nomatch surrogate
  next => split <;> nofun

theorem normalPort_ne_unencodable (port scheme : Text) :
    normalPort port scheme ≠ .error .unencodable := by
  rw [normalPort]
  repeat' split
  all_goals nofun

theorem checkRelative_ne_unencodable (path : Text) :
    checkRelative path ≠ .error .unencodable := by
  rw [checkRelative]
  repeat' split
  all_goals nofun

/-- A chain of checks that ends in a fault has ended in it at one of its parts. -/
theorem bind_eq_error_iff {α β : Type} {first : Except ParseFault α}
    {next : α → Except ParseFault β} {fault : ParseFault} :
    first >>= next = .error fault ↔
      first = .error fault ∨ ∃ value, first = .ok value ∧ next value = .error fault := by
  cases first with
  | error cause => simp [bind, Except.bind]
  | ok value => simp [bind, Except.bind]

/-- A part that is quoted stumbles if it is broken, and otherwise it is for the rest to stumble. -/
theorem bind_eq_unencodable_iff {α β : Type} {first : Except ParseFault α}
    {next : α → Except ParseFault β} {broken rest : Prop}
    (quoted : broken ∧ first = .error .unencodable ∨ ¬broken ∧ ∃ value, first = .ok value)
    (later : ∀ value, next value = .error .unencodable ↔ rest) :
    first >>= next = .error .unencodable ↔ broken ∨ rest := by
  obtain ⟨broken, rfl⟩ | ⟨whole, value, rfl⟩ := quoted
  · exact iff_of_true rfl (.inl broken)
  · exact (later value).trans (or_iff_right whole).symm

namespace Parts

variable (parts : Parts)

/-- A surrogate stands where it must be quoted behind the authority. -/
def BrokenBehind (host : Text) (port : Option Int) : Prop :=
  (parts.location host port).HasSurrogate ∨
    (∃ query, parts.query = some query ∧ query.HasSurrogate) ∨
    ∃ fragment, parts.fragment = some fragment ∧ fragment.HasSurrogate

/-- A surrogate stands in a part that must be quoted, and nothing that is checked before that part
is found wrong. -/
def Stumbles [Platform] : Prop :=
  parts.userinfo.HasSurrogate ∨
    ∃ host port, normalHost parts.host = .ok host ∧
      normalPort parts.port parts.scheme = .ok port ∧
      (parts.isAbsolute host port = false → checkRelative parts.path = .ok ()) ∧
      parts.BrokenBehind host port

theorem completed_eq_unencodable_iff (userinfo host : Text) (port : Option Int) :
    parts.completed userinfo host port = .error .unencodable ↔ parts.BrokenBehind host port := by
  refine bind_eq_unencodable_iff
    (quotePart_cases (scalar_printableExcept _) (parts.location host port)) fun path => ?_
  refine bind_eq_unencodable_iff
    (quoteOptional_cases (scalar_printableExcept _) parts.query) fun query => ?_
  rw [← or_false (∃ fragment, parts.fragment = some fragment ∧ fragment.HasSurrogate)]
  refine bind_eq_unencodable_iff
    (quoteOptional_cases (scalar_printableExcept _) parts.fragment) fun fragment => ?_
  exact iff_of_false nofun not_false

theorem url_eq_unencodable_iff [Platform] : parts.url = .error .unencodable ↔ parts.Stumbles := by
  rw [url, Stumbles]
  refine bind_eq_unencodable_iff (quotePart_cases scalar_userinfo parts.userinfo) fun userinfo => ?_
  rw [bind_eq_error_iff, or_iff_right (normalHost_ne_unencodable parts.host)]
  refine exists_congr fun host => ?_
  rw [exists_and_left]
  refine and_congr_right fun _ => ?_
  rw [bind_eq_error_iff, or_iff_right (normalPort_ne_unencodable parts.port parts.scheme)]
  refine exists_congr fun port => and_congr_right fun _ => ?_
  rw [← parts.completed_eq_unencodable_iff userinfo host port]
  cases parts.isAbsolute host port with
  | true => exact (and_iff_right nofun).symm
  | false =>
    change checkRelative parts.path >>= (fun _ => parts.completed userinfo host port) = _ ↔ _
    rw [bind_eq_error_iff, or_iff_right (checkRelative_ne_unencodable parts.path)]
    constructor
    · rintro ⟨_, checked, stopped⟩
      exact ⟨fun _ => checked, stopped⟩
    · rintro ⟨checked, stopped⟩
      exact ⟨(), checked rfl, stopped⟩

end Parts

def Stumbles [Platform] (text : Text) : Prop :=
  text.length ≤ lengthLimit ∧ (∀ point ∈ text, isControl point = false) ∧
    (Parts.ofText text).Stumbles

theorem parse_eq_unencodable_iff [Platform] (text : Text) :
    parse text = .error .unencodable ↔ Stumbles text := by
  rw [parse, Stumbles, ← Parts.url_eq_unencodable_iff]
  split
  next long => exact iff_of_false nofun fun ⟨short, _⟩ => Nat.not_lt.mpr short long
  next short =>
    rw [and_iff_right (Nat.le_of_not_lt short)]
    split
    next point found =>
      refine iff_of_false nofun fun ⟨printable, _⟩ => ?_
      have control := List.find?_some found
      rw [printable point (List.mem_of_find?_eq_some found)] at control
      nomatch control
    next none =>
      refine (and_iff_right fun point member => ?_).symm
      simpa using List.find?_eq_none.mp none point member

section Splitting

theorem subset_splitBefore (marks : String) (text : Text) :
    (splitBefore marks text).1 ⊆ text ∧ (splitBefore marks text).2 ⊆ text :=
  ⟨List.takeWhile_subset _, List.dropWhile_subset _⟩

theorem subset_splitScheme (text : Text) : (splitScheme text).2 ⊆ text := by
  rw [splitScheme]
  split
  next point rest found =>
    have behind : point :: rest ⊆ text := found ▸ List.drop_subset _ text
    split
    · exact fun other member => behind (.tail point member)
    · exact List.Subset.refl text
  next => exact List.Subset.refl text

theorem subset_splitAuthority (text : Text) :
    (splitAuthority text).1 ⊆ text ∧ (splitAuthority text).2 ⊆ text := by
  have kept : (([], text) : Text × Text).1 ⊆ text ∧ (([], text) : Text × Text).2 ⊆ text :=
    ⟨List.nil_subset text, List.Subset.refl text⟩
  unfold splitAuthority
  split
  next a b rest =>
    split
    · have behind : rest ⊆ a :: b :: rest :=
        List.subset_cons_of_subset a (List.subset_cons_self b rest)
      obtain ⟨authority, after⟩ := subset_splitBefore "/?#" rest
      exact ⟨List.Subset.trans authority behind, List.Subset.trans after behind⟩
    · exact kept
  next => exact kept

theorem subset_splitBehind (mark : Char) (stops : String) (text : Text) :
    (∀ part, (splitBehind mark stops text).1 = some part → part ⊆ text) ∧
      (splitBehind mark stops text).2 ⊆ text := by
  cases text with
  | nil => exact ⟨nofun, List.Subset.refl []⟩
  | cons point rest =>
    rw [splitBehind]
    split
    · obtain ⟨part, after⟩ := subset_splitBefore stops rest
      have behind := List.subset_cons_self point rest
      refine ⟨?_, List.Subset.trans after behind⟩
      rintro _ ⟨⟩
      exact List.Subset.trans part behind
    · exact ⟨nofun, List.Subset.refl _⟩

theorem Parts.subset_ofText (text : Text) :
    (ofText text).userinfo ⊆ text ∧ (ofText text).path ⊆ text ∧
      (∀ query, (ofText text).query = some query → query ⊆ text) ∧
      ∀ fragment, (ofText text).fragment = some fragment → fragment ⊆ text := by
  have schemeless := subset_splitScheme text
  obtain ⟨authority, pathful⟩ := subset_splitAuthority (splitScheme text).2
  obtain ⟨path, queryful⟩ := subset_splitBefore "?#" (splitAuthority (splitScheme text).2).2
  have behind := List.Subset.trans pathful schemeless
  have rest := List.Subset.trans queryful behind
  obtain ⟨query, fragmentful⟩ := subset_splitBehind '?' "#"
    (splitBefore "?#" (splitAuthority (splitScheme text).2).2).2
  obtain ⟨fragment, -⟩ := subset_splitBehind '#' ""
    (splitBehind '?' "#" (splitBefore "?#" (splitAuthority (splitScheme text).2).2).2).2
  refine ⟨?_, List.Subset.trans path behind,
    fun part found => List.Subset.trans (query part found) rest,
    fun part found => List.Subset.trans (fragment part found) (List.Subset.trans fragmentful rest)⟩
  change ((Text.cutLast? '@' (splitAuthority (splitScheme text).2).1).getD
    ([], (splitAuthority (splitScheme text).2).1)).1 ⊆ text
  cases cut : Text.cutLast? '@' (splitAuthority (splitScheme text).2).1 with
  | none => exact List.nil_subset text
  | some halves =>
    exact List.Subset.trans (Text.subset_of_cutLast? cut).1 (List.Subset.trans authority schemeless)

theorem mem_of_mem_pushSegment {kept : List Text} {segment piece : Text}
    (member : piece ∈ pushSegment kept segment) : piece ∈ kept ∨ piece = segment := by
  rw [pushSegment] at member
  split at member
  · exact .inl member
  split at member
  · split at member
    · exact .inl member
    · exact .inl (List.dropLast_subset kept member)
  · rcases List.mem_append.mp member with before | here
    · exact .inl before
    · exact .inr (List.mem_singleton.mp here)

theorem mem_of_mem_normalPath {path : Text} {point : CodePoint}
    (member : point ∈ normalPath path) : point ∈ Text.ofString "/" ∨ point ∈ path := by
  have kept (segments : List Text) (start : List Text) (piece : Text)
      (member : piece ∈ segments.foldl pushSegment start) : piece ∈ start ∨ piece ∈ segments := by
    induction segments generalizing start with
    | nil => exact .inl member
    | cons segment segments ih =>
      obtain pushed | later := ih (pushSegment start segment) member
      · obtain before | rfl := mem_of_mem_pushSegment pushed
        · exact .inl before
        · exact .inr (.head _)
      · exact .inr (.tail _ later)
  obtain between | ⟨piece, among, inside⟩ := Text.mem_joinWith member
  · exact .inl between
  · obtain absent | found := kept _ _ piece among
    · nomatch absent
    · exact .inr (Text.subset_of_mem_pieces '/' found inside)

/-- Where the reading of a text stumbles there is a surrogate in the text. -/
theorem Stumbles.hasSurrogate [Platform] {text : Text} (stumbles : Stumbles text) :
    text.HasSurrogate := by
  obtain ⟨userinfo, path, query, fragment⟩ := Parts.subset_ofText text
  obtain ⟨-, -, broken | ⟨host, port, -, -, -, broken⟩⟩ := stumbles
  · exact broken.of_subset userinfo
  obtain broken | ⟨part, found, broken⟩ | ⟨part, found, broken⟩ := broken
  · rw [Parts.location] at broken
    split at broken
    · obtain ⟨point, member, surrogate⟩ := broken
      obtain slash | member := mem_of_mem_normalPath member
      · cases List.mem_singleton.mp slash
        nomatch surrogate
      · exact ⟨point, path member, surrogate⟩
    · exact broken.of_subset path
  · exact broken.of_subset (query part found)
  · exact broken.of_subset (fragment part found)

end Splitting

end QueryWire.Url
