import QueryWire.Json.Reader
import QueryWire.Proofs.Json.Scalar

/-!
Reading undoes writing: the text of a JSON tree is read as that tree. The tree must have no floats,
no repeated keys, no two surrogates that its text would join, and no integer beyond the limit. Any
other tree that can be written is read as one of the same shape.
-/

namespace QueryWire.Json

mutual

/-- Nothing in a tree gets lost in its text: keys are distinct, no surrogates can be joined, and
there are no floats. -/
def Lossless : Json → Prop
  | .null | .bool _ | .int _ => True
  | .float _ => False
  | .text value => value.Unjoined
  | .array items => LosslessItems items
  | .object members => (members.map Prod.fst).Nodup ∧ LosslessMembers members

def LosslessItems : List Json → Prop
  | [] => True
  | item :: items => Lossless item ∧ LosslessItems items

def LosslessMembers : List (Text × Json) → Prop
  | [] => True
  | (key, value) :: members => key.Unjoined ∧ Lossless value ∧ LosslessMembers members

end

mutual

/-- Every number in a tree can be written: floats are finite, and integers have at most as many
digits as the limit allows. -/
def Writable : Json → Prop
  | .null | .bool _ | .text _ => True
  | .int value => (Numeral.ofNat value.natAbs).length ≤ Numeral.digitLimit
  | .float value => value.isFinite = true
  | .array items => WritableItems items
  | .object members => WritableMembers members

def WritableItems : List Json → Prop
  | [] => True
  | item :: items => Writable item ∧ WritableItems items

def WritableMembers : List (Text × Json) → Prop
  | [] => True
  | (_, value) :: members => Writable value ∧ WritableMembers members

end

mutual

def depth : Json → Nat
  | .null | .bool _ | .int _ | .float _ | .text _ => 0
  | .array items => depthItems items + 1
  | .object members => depthMembers members + 1

def depthItems : List Json → Nat
  | [] => 0
  | item :: items => max (depth item) (depthItems items)

def depthMembers : List (Text × Json) → Nat
  | [] => 0
  | (_, value) :: members => max (depth value) (depthMembers members)

end

section Checking

mutual

def decideLossless : (json : Json) → Decidable json.Lossless
  | .null | .bool _ | .int _ => .isTrue trivial
  | .float _ => .isFalse id
  | .text value => inferInstanceAs (Decidable value.Unjoined)
  | .array items => decideLosslessItems items
  | .object members =>
    have := decideLosslessMembers members
    inferInstanceAs (Decidable ((members.map Prod.fst).Nodup ∧ LosslessMembers members))

def decideLosslessItems : (items : List Json) → Decidable (LosslessItems items)
  | [] => .isTrue trivial
  | item :: items =>
    have := decideLossless item
    have := decideLosslessItems items
    inferInstanceAs (Decidable (Lossless item ∧ LosslessItems items))

def decideLosslessMembers : (members : List (Text × Json)) → Decidable (LosslessMembers members)
  | [] => .isTrue trivial
  | (key, value) :: members =>
    have := decideLossless value
    have := decideLosslessMembers members
    inferInstanceAs (Decidable (key.Unjoined ∧ Lossless value ∧ LosslessMembers members))

end

mutual

def decideWritable : (json : Json) → Decidable json.Writable
  | .null | .bool _ | .text _ => .isTrue trivial
  | .int value =>
    inferInstanceAs (Decidable ((Numeral.ofNat value.natAbs).length ≤ Numeral.digitLimit))
  | .float value => inferInstanceAs (Decidable (value.isFinite = true))
  | .array items => decideWritableItems items
  | .object members => decideWritableMembers members

def decideWritableItems : (items : List Json) → Decidable (WritableItems items)
  | [] => .isTrue trivial
  | item :: items =>
    have := decideWritable item
    have := decideWritableItems items
    inferInstanceAs (Decidable (Writable item ∧ WritableItems items))

def decideWritableMembers : (members : List (Text × Json)) → Decidable (WritableMembers members)
  | [] => .isTrue trivial
  | (_, value) :: members =>
    have := decideWritable value
    have := decideWritableMembers members
    inferInstanceAs (Decidable (Writable value ∧ WritableMembers members))

end

instance (json : Json) : Decidable json.Lossless := decideLossless json

instance (items : List Json) : Decidable (LosslessItems items) := decideLosslessItems items

instance (json : Json) : Decidable json.Writable := decideWritable json

instance (items : List Json) : Decidable (WritableItems items) := decideWritableItems items

end Checking

mutual

/-- What the text of a tree is read as: surrogates are joined, floats are read from their texts, and
of the members whose keys become one the last has its value at the place of the first. -/
def reread : Json → Json
  | .null => .null
  | .bool value => .bool value
  | .int value => .int value
  | .float value => .float (rereadFloat value)
  | .text value => .text value.joined
  | .array items => .array (rereadItems items)
  | .object members => .object (rereadMembers [] members)

def rereadItems : List Json → List Json
  | [] => []
  | item :: items => reread item :: rereadItems items

def rereadMembers (done : List (Text × Json)) : List (Text × Json) → List (Text × Json)
  | [] => done
  | (key, value) :: members =>
    rereadMembers (insertMember key.joined (reread value) done) members

end

theorem insertMember_fresh (key : Text) (value : Json) (done : List (Text × Json))
    (fresh : key ∉ done.map Prod.fst) : insertMember key value done = done ++ [(key, value)] := by
  induction done with
  | nil => rfl
  | cons entry done ih =>
    obtain ⟨found, old⟩ := entry
    simp only [List.map_cons, List.mem_cons, not_or] at fresh
    rw [insertMember, if_neg (Ne.symm fresh.1), ih fresh.2, List.cons_append]

namespace Reader

variable (room : Nat)

def Accepts (reader : Reader) (frames : List Frame) : Prop :=
  ∀ token, token ≠ .closeArray → reader.step room token = onValue room frames token

theorem accepts_value (frames : List Frame) : Accepts room ⟨frames, .value⟩ frames :=
  fun _ _ => rfl

theorem accepts_item (frames : List Frame) :
    Accepts room ⟨frames, .itemOrClose⟩ (.array [] :: frames) := by
  intro token open_
  cases token <;> first | rfl | exact absurd rfl open_

def AcceptsKey (reader : Reader) (frames : List Frame) (done : List (Text × Json)) : Prop :=
  ∀ key, reader.step room (.text key) = .ok ⟨frames, .colon done key⟩

theorem acceptsKey_first (frames : List Frame) :
    AcceptsKey room ⟨frames, .keyOrClose⟩ frames [] :=
  fun _ => rfl

theorem acceptsKey_next (frames : List Frame) (done : List (Text × Json)) :
    AcceptsKey room ⟨frames, .key done⟩ frames done :=
  fun _ => rfl

theorem run_step (reader next : Reader) (token : Token) (rest : List (Except ReadFault Token))
    (taken : reader.step room token = .ok next) :
    reader.run room (.ok token :: rest) = next.run room rest := by
  simp only [run, taken]

theorem opened_of_lt (frames : List Frame) (expected : Expected) (spare : frames.length < room) :
    opened room frames expected = .ok ⟨frames, expected⟩ := if_pos spare

end Reader

theorem tokens_comma (rest : Text) :
    tokens ((", " : Text) ++ rest) = .ok .comma :: tokens rest := by
  have comma := tokens_of_scan (.ofChar ',') (.ofChar ' ' :: rest) _ .comma rfl rfl
  rw [tokens_of_blank (.ofChar ' ') rest rfl] at comma
  exact comma

theorem tokens_colon (rest : Text) :
    tokens ((": " : Text) ++ rest) = .ok .colon :: tokens rest := by
  have colon := tokens_of_scan (.ofChar ':') (.ofChar ' ' :: rest) _ .colon rfl rfl
  rw [tokens_of_blank (.ofChar ' ') rest rfl] at colon
  exact colon

theorem ends_separator (rest : Text) : Ends ((", " : Text) ++ rest) := ends_comma _

theorem joinWith_cons_cons (separator first second : Text) (others : List Text) :
    Text.joinWith separator (first :: second :: others) =
      first ++ separator ++ Text.joinWith separator (second :: others) := rfl

open Reader

mutual

theorem run_render (room : Nat) (json : Json) (writable : json.Writable) (reader : Reader)
    (frames : List Frame) (rest : Text) (accepts : reader.Accepts room frames) (ends : Ends rest)
    (spare : frames.length + json.depth ≤ room) :
    reader.run room (tokens (json.render ++ rest)) =
      run room ⟨frames, .separator json.reread⟩ (tokens rest) := by
  have first (token : Token) (next : Reader) (tail : List (Except ReadFault Token))
      (other : token ≠ .closeArray) (taken : onValue room frames token = .ok next) :
      reader.run room (.ok token :: tail) = next.run room tail :=
    run_step room reader next token tail (by rw [accepts token other, taken])
  match json with
  | .null =>
    rw [render, tokens_null]
    exact first _ _ _ nofun rfl
  | .bool value =>
    rw [render, tokens_bool]
    exact first _ _ _ nofun rfl
  | .int value =>
    rw [render, tokens_int value rest ends ((Numeral.fits_iff value).mpr writable)]
    exact first _ _ _ nofun rfl
  | .float value =>
    rw [render, tokens_float value rest ends writable]
    exact first _ _ _ nofun rfl
  | .text value =>
    rw [render, tokens_text value rest]
    exact first _ _ _ nofun rfl
  | .array items =>
    have opening := tokens_of_scan (.ofChar '[')
      (Text.joinWith ", " (renderItems items) ++ .ofChar ']' :: rest) _ .openArray rfl rfl
    have shape : (array items).render ++ rest =
        .ofChar '[' :: (Text.joinWith ", " (renderItems items) ++ .ofChar ']' :: rest) := by
      simp [render]
    rw [depth] at spare
    have allowed := opened_of_lt room frames .itemOrClose (by omega)
    rw [shape, opening, first .openArray ⟨frames, .itemOrClose⟩ _ nofun allowed]
    by_cases empty : items = []
    · subst empty
      have closing := tokens_of_scan (.ofChar ']') rest _ .closeArray rfl rfl
      rw [renderItems, Text.joinWith, List.nil_append, closing]
      exact run_step _ _ _ _ _ rfl
    · exact run_renderItems room items writable empty _ [] frames rest (accepts_item room frames)
        spare
  | .object members =>
    have opening := tokens_of_scan (.ofNat 0x7B)
      (Text.joinWith ", " (renderMembers members) ++ .ofNat 0x7D :: rest) _ .openObject rfl rfl
    have shape : (object members).render ++ rest =
        .ofNat 0x7B :: (Text.joinWith ", " (renderMembers members) ++ .ofNat 0x7D :: rest) := by
      simp [render]
    rw [depth] at spare
    have allowed := opened_of_lt room frames .keyOrClose (by omega)
    rw [shape, opening, first .openObject ⟨frames, .keyOrClose⟩ _ nofun allowed]
    by_cases empty : members = []
    · subst empty
      have closing := tokens_of_scan (.ofNat 0x7D) rest _ .closeObject rfl rfl
      rw [renderMembers, Text.joinWith, List.nil_append, closing]
      exact run_step _ _ _ _ _ rfl
    · exact run_renderMembers room members writable empty _ [] frames rest
        (acceptsKey_first room frames) spare

theorem run_renderItems (room : Nat) (items : List Json) (writable : WritableItems items)
    (present : items ≠ []) (reader : Reader) (done : List Json) (outer : List Frame) (rest : Text)
    (accepts : reader.Accepts room (.array done :: outer))
    (spare : outer.length + (depthItems items + 1) ≤ room) :
    reader.run room (tokens (Text.joinWith ", " (renderItems items) ++ .ofChar ']' :: rest)) =
      run room ⟨outer, .separator (.array (done.reverse ++ rereadItems items))⟩ (tokens rest) := by
  match items with
  | [item] =>
    have closing := tokens_of_scan (.ofChar ']') rest _ .closeArray rfl rfl
    simp only [depthItems] at spare
    rw [renderItems, renderItems, Text.joinWith,
      run_render room item writable.1 reader _ _ accepts (ends_closeArray rest)
        (by simp only [List.length_cons]; omega),
      closing, rereadItems, rereadItems, ← List.reverse_cons]
    exact run_step _ _ _ _ _ rfl
  | item :: second :: items =>
    rw [depthItems] at spare
    rw [renderItems, renderItems, joinWith_cons_cons, List.append_assoc, List.append_assoc,
      run_render room item writable.1 reader _ _ accepts (ends_separator _)
        (by simp only [List.length_cons]; omega),
      tokens_comma, run_step room _ ⟨.array (item.reread :: done) :: outer, .value⟩ _ _ rfl,
      ← renderItems,
      run_renderItems room (second :: items) writable.2 nofun _ (item.reread :: done) outer rest
        (accepts_value room _) (by omega),
      List.reverse_cons, List.append_assoc, List.cons_append, List.nil_append, ← rereadItems]

theorem run_renderMembers (room : Nat) (members : List (Text × Json))
    (writable : WritableMembers members) (present : members ≠ []) (reader : Reader)
    (done : List (Text × Json)) (outer : List Frame) (rest : Text)
    (accepts : reader.AcceptsKey room outer done)
    (spare : outer.length + (depthMembers members + 1) ≤ room) :
    reader.run room (tokens (Text.joinWith ", " (renderMembers members) ++ .ofNat 0x7D :: rest)) =
      run room ⟨outer, .separator (.object (rereadMembers done members))⟩ (tokens rest) := by
  match members with
  | (key, value) :: members =>
    rw [depthMembers] at spare
    have opened (tail : Text) (ends : Ends tail) :
        reader.run room (tokens (renderText key ++ (": " : Text) ++ value.render ++ tail)) =
          run room ⟨.object done key.joined :: outer, .separator value.reread⟩ (tokens tail) := by
      rw [List.append_assoc, List.append_assoc, tokens_text key, run_step _ _ _ _ _ (accepts _),
        tokens_colon, run_step room _ ⟨.object done key.joined :: outer, .value⟩ _ _ rfl,
        run_render room value writable.1 _ _ tail (accepts_value room _) ends
          (by simp only [List.length_cons]; omega)]
    rw [rereadMembers]
    match members with
    | [] =>
      have closing := tokens_of_scan (.ofNat 0x7D) rest _ .closeObject rfl rfl
      rw [renderMembers, renderMembers, Text.joinWith, opened _ (ends_closeObject rest), closing]
      exact run_step _ _ _ _ _ rfl
    | second :: members =>
      rw [renderMembers, renderMembers, joinWith_cons_cons, List.append_assoc, List.append_assoc,
        opened _ (ends_separator _), tokens_comma,
        run_step room _ ⟨outer, .key (insertMember key.joined value.reread done)⟩ _ _ rfl,
        ← renderMembers]
      exact run_renderMembers room (second :: members) writable.2 nofun _ _ outer rest
        (acceptsKey_next room _ _) (by omega)

end

/-- The text of a JSON tree that can be written is always read where there is room for it. -/
theorem parse_reread (json : Json) (writable : json.Writable) (room : Nat)
    (spare : json.depth ≤ room) : parse room json.render = .ok json.reread := by
  have whole := run_render room json writable .initial [] [] (accepts_value room []) ends_nil
    (by simpa using spare)
  rw [List.append_nil] at whole
  exact whole

mutual

theorem reread_of_lossless (json : Json) (lossless : json.Lossless) : json.reread = json := by
  match json with
  | .null | .bool _ | .int _ => rfl
  | .float value => exact lossless.elim
  | .text value => rw [reread, value.joined_of_unjoined lossless]
  | .array items => rw [reread, rereadItems_of_lossless items lossless]
  | .object members =>
    rw [reread, rereadMembers_of_lossless members lossless.2 [] lossless.1, List.nil_append]

theorem rereadItems_of_lossless (items : List Json) (lossless : LosslessItems items) :
    rereadItems items = items := by
  match items with
  | [] => rfl
  | item :: items =>
    rw [rereadItems, reread_of_lossless item lossless.1, rereadItems_of_lossless items lossless.2]

theorem rereadMembers_of_lossless (members : List (Text × Json))
    (lossless : LosslessMembers members) (done : List (Text × Json))
    (distinct : ((done ++ members).map Prod.fst).Nodup) :
    rereadMembers done members = done ++ members := by
  match members with
  | [] => rw [rereadMembers, List.append_nil]
  | (key, value) :: members =>
    have fresh : key ∉ done.map Prod.fst := by
      rw [List.map_append, List.map_cons] at distinct
      exact fun member => (List.nodup_append.mp distinct).2.2 _ member _ (.head _) rfl
    rw [rereadMembers, key.joined_of_unjoined lossless.1, reread_of_lossless value lossless.2.1,
      insertMember_fresh key value done fresh,
      rereadMembers_of_lossless members lossless.2.2 _ (by simpa using distinct),
      List.append_assoc, List.cons_append, List.nil_append]

end

/-- The text of a JSON tree is read as that tree. -/
theorem parse_render (json : Json) (lossless : json.Lossless) (writable : json.Writable)
    (room : Nat) (spare : json.depth ≤ room) : parse room json.render = .ok json := by
  rw [parse_reread json writable room spare, reread_of_lossless json lossless]

end QueryWire.Json
