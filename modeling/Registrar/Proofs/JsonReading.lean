import Registrar.Proofs.JsonString

/-!
# Reading JSON text back

A reader of JSON texts, for the values that documents consist of. A text is first cut into tokens,
white space passed over, and the tokens are then read as one value. The reader accepts exactly the
texts whose tokens are those of a value, and the tokens of a written value are its own in every
layout, so a value that is written can be read back.
-/

namespace Registrar.Text

namespace Json

/-! ### Tokens -/

/-- The tokens of a JSON text. -/
inductive Token where
  | text (s : String)
  | openList
  | closeList
  | openObject
  | closeObject
  | comma
  | colon
  deriving DecidableEq, Repr

/-- White space between tokens. -/
def isSpace (c : Char) : Bool :=
  c = ' ' || c = '\t' || c = '\n' || c = '\r'

/-- The token of one character. -/
def mark? (c : Char) : Option Token :=
  if c = '[' then some .openList
  else if c = ']' then some .closeList
  else if c = '\x7b' then some .openObject
  else if c = '\x7d' then some .closeObject
  else if c = ',' then some .comma
  else if c = ':' then some .colon
  else none

/-- The tokens of a text. -/
def tokenize (text : List Char) : Option (List Token) :=
  match text with
  | [] => some []
  | c :: rest =>
    if isSpace c then tokenize rest
    else if c = '"' then
      match _h : readString? rest with
      | none => none
      | some (s, behind) => (tokenize behind).map (.text s :: ·)
    else (mark? c).bind fun t => (tokenize rest).map (t :: ·)
termination_by text.length
decreasing_by
  · simp
  · have := length_lt_of_readString? _h
    simp only [List.length_cons]
    omega
  · simp

/-- A text in front of which other texts can stand: whatever follows it, it is cut into the given
tokens. -/
def Lexes (front : List Char) (ts : List Token) : Prop :=
  ∀ rest, tokenize (front ++ rest) = (tokenize rest).map (ts ++ ·)

namespace Lexes

theorem nil : Lexes [] [] := by
  intro rest
  simp

/-- Two texts are cut one after the other. -/
theorem append {front back : List Char} {ts us : List Token} (h : Lexes front ts)
    (h' : Lexes back us) : Lexes (front ++ back) (ts ++ us) := by
  intro rest
  rw [List.append_assoc, h, h', Option.map_map]
  simp [Function.comp_def]

/-- White space is passed over. -/
theorem space {text : List Char} (h : ∀ c ∈ text, isSpace c = true) : Lexes text [] := by
  induction text with
  | nil => exact nil
  | cons c text ih =>
    obtain ⟨hc, htext⟩ := List.forall_mem_cons.mp h
    intro rest
    rw [List.cons_append, tokenize, if_pos hc, ih htext]

/-- A mark is a token. -/
theorem mark {c : Char} {t : Token} (h : mark? c = some t) (hspace : isSpace c = false)
    (hquote : c ≠ '"') : Lexes [c] [t] := by
  intro rest
  rw [List.singleton_append, tokenize, hspace, if_neg (by decide), if_neg hquote, h]
  rfl

/-- A written string is a token. -/
theorem quote (s : String) : Lexes (Json.quote s) [.text s] := by
  intro rest
  obtain ⟨text, htext, hread⟩ := readString?_quote s rest
  rw [htext, tokenize, if_neg (by decide), if_pos rfl]
  split
  · simp_all
  · simp_all

end Lexes

mutual

/-- The tokens of a value. -/
def tokens : Json → List Token
  | .text s => [.text s]
  | .list [] => [.openList, .closeList]
  | .list (item :: items) => .openList :: tokens item ++ itemTokens items ++ [.closeList]
  | .object [] => [.openObject, .closeObject]
  | .object ((name, value) :: members) =>
    .openObject :: .text name :: .colon :: tokens value ++ memberTokens members ++ [.closeObject]

/-- The tokens of the items of a list after the first. -/
def itemTokens : List Json → List Token
  | [] => []
  | item :: items => .comma :: tokens item ++ itemTokens items

/-- The tokens of the members of an object after the first. -/
def memberTokens : List (String × Json) → List Token
  | [] => []
  | (name, value) :: members =>
    .comma :: .text name :: .colon :: tokens value ++ memberTokens members

end

/-! ### Layouts -/

/-- The opening brackets are tokens. -/
theorem lexes_open : Lexes ['['] [.openList] ∧ Lexes ['\x7b'] [.openObject] :=
  ⟨Lexes.mark rfl rfl (by decide), Lexes.mark rfl rfl (by decide)⟩

/-- The closing brackets are tokens. -/
theorem lexes_close : Lexes [']'] [.closeList] ∧ Lexes ['\x7d'] [.closeObject] :=
  ⟨Lexes.mark rfl rfl (by decide), Lexes.mark rfl rfl (by decide)⟩

/-- The brackets of an empty container are two tokens. -/
theorem lexes_brackets :
    Lexes ['[', ']'] [.openList, .closeList] ∧ Lexes ['\x7b', '\x7d'] [.openObject, .closeObject] :=
  ⟨lexes_open.1.append lexes_close.1, lexes_open.2.append lexes_close.2⟩

/-- The name of a member is a string and a colon. -/
theorem lexes_name (name : String) : Lexes (quote name ++ [':', ' ']) [.text name, .colon] := by
  have hcolon : Lexes [':'] [.colon] := Lexes.mark rfl rfl (by decide)
  have hblank : Lexes [' '] [] := Lexes.space (List.forall_mem_singleton.mpr rfl)
  exact (Lexes.quote name).append (hcolon.append hblank)

/-- White space is ASCII. -/
theorem isAscii_of_isSpace {text : List Char} (h : ∀ c ∈ text, isSpace c = true) : IsAscii text := by
  intro c hc
  have hspace := h c hc
  simp only [isSpace, Bool.or_eq_true, decide_eq_true_eq] at hspace
  rcases hspace with ((rfl | rfl) | rfl) | rfl <;> decide

/-- A layout whose indent, if there is one, is white space. -/
def IsSpaced (indent : Option (List Char)) : Prop :=
  ∀ unit ∈ indent, ∀ c ∈ unit, isSpace c = true

section Layout

variable {indent : Option (List Char)} (hindent : IsSpaced indent)

include hindent

/-- The start of a line is white space. -/
theorem isSpace_newline (depth : Nat) : ∀ c ∈ newline indent depth, isSpace c = true := by
  intro c hc
  cases indent with
  | none => cases hc
  | some unit =>
    rcases List.mem_cons.mp hc with rfl | hc
    · rfl
    · obtain ⟨unit', hunit, hc⟩ := List.mem_flatten.mp hc
      rw [List.eq_of_mem_replicate hunit] at hc
      exact hindent unit rfl c hc

/-- The start of a line is passed over. -/
theorem lexes_newline (depth : Nat) : Lexes (newline indent depth) [] :=
  Lexes.space (isSpace_newline hindent depth)

/-- What separates two items is a comma. -/
theorem lexes_comma (depth : Nat) : Lexes (comma indent depth) [.comma] := by
  have hbehind : Lexes (if indent.isNone then [' '] else newline indent depth) [] := by
    split
    · exact Lexes.space (List.forall_mem_singleton.mpr rfl)
    · exact lexes_newline hindent depth
  exact (Lexes.mark rfl rfl (by decide)).append hbehind

mutual

/-- A written value is cut into its tokens, whatever the layout. -/
theorem lexes_write (depth : Nat) : ∀ v : Json, Lexes (write indent depth v) v.tokens
  | .text s => Lexes.quote s
  | .list [] => lexes_brackets.1
  | .list (item :: items) => by
    have hbody := ((lexes_newline hindent (depth + 1)).append
      (lexes_write (depth + 1) item)).append (lexes_writeItems (depth + 1) items)
    have hlist := (lexes_open.1.append hbody).append
      ((lexes_newline hindent depth).append lexes_close.1)
    simpa [write, tokens] using hlist
  | .object [] => lexes_brackets.2
  | .object ((name, value) :: members) => by
    have hbody := ((lexes_newline hindent (depth + 1)).append (lexes_name name)).append
      ((lexes_write (depth + 1) value).append (lexes_writeMembers (depth + 1) members))
    have hobject := (lexes_open.2.append hbody).append
      ((lexes_newline hindent depth).append lexes_close.2)
    simpa [write, tokens] using hobject

/-- The written items after the first are cut into their tokens. -/
theorem lexes_writeItems (depth : Nat) : ∀ items : List Json,
    Lexes (writeItems indent depth items) (itemTokens items)
  | [] => Lexes.nil
  | item :: items => by
    have hitem := (lexes_comma hindent depth).append (lexes_write depth item)
    simpa [writeItems, itemTokens] using hitem.append (lexes_writeItems depth items)

/-- The written members after the first are cut into their tokens. -/
theorem lexes_writeMembers (depth : Nat) : ∀ members : List (String × Json),
    Lexes (writeMembers indent depth members) (memberTokens members)
  | [] => Lexes.nil
  | (name, value) :: members => by
    have hmember := ((lexes_comma hindent depth).append (lexes_name name)).append
      (lexes_write depth value)
    simpa [writeMembers, memberTokens] using hmember.append (lexes_writeMembers depth members)

end

/-- The start of a line is ASCII. -/
theorem isAscii_newline (depth : Nat) : IsAscii (newline indent depth) :=
  isAscii_of_isSpace (isSpace_newline hindent depth)

/-- What separates two items is ASCII. -/
theorem isAscii_comma (depth : Nat) : IsAscii (comma indent depth) := by
  rw [comma, isAscii_cons]
  refine ⟨by decide, ?_⟩
  split
  · simp
  · exact isAscii_newline hindent depth

mutual

/-- A written value is ASCII. -/
theorem isAscii_write (depth : Nat) : ∀ v : Json, IsAscii (write indent depth v)
  | .text s => isAscii_quote s
  | .list [] => by simp [write]
  | .list (item :: items) => by
    simp [write, isAscii_newline hindent, isAscii_write (depth + 1) item,
      isAscii_writeItems (depth + 1) items]
  | .object [] => by simp [write]
  | .object ((name, value) :: members) => by
    simp [write, isAscii_newline hindent, isAscii_quote, isAscii_write (depth + 1) value,
      isAscii_writeMembers (depth + 1) members]

/-- The written items after the first are ASCII. -/
theorem isAscii_writeItems (depth : Nat) : ∀ items : List Json,
    IsAscii (writeItems indent depth items)
  | [] => isAscii_nil
  | item :: items => by
    simp [writeItems, isAscii_comma hindent, isAscii_write depth item,
      isAscii_writeItems depth items]

/-- The written members after the first are ASCII. -/
theorem isAscii_writeMembers (depth : Nat) : ∀ members : List (String × Json),
    IsAscii (writeMembers indent depth members)
  | [] => isAscii_nil
  | (name, value) :: members => by
    simp [writeMembers, isAscii_comma hindent, isAscii_quote, isAscii_write depth value,
      isAscii_writeMembers depth members]

end

end Layout

/-! ### Values -/

mutual

/-- The value that some tokens start with, and the tokens behind it. -/
def readValue : Nat → List Token → Option (Json × List Token)
  | 0, _ => none
  | fuel + 1, ts =>
    match ts with
    | .text s :: rest => some (.text s, rest)
    | .openList :: .closeList :: rest => some (.list [], rest)
    | .openList :: rest => do
      let (item, rest) ← readValue fuel rest
      let (items, rest) ← readItems fuel rest
      return (.list (item :: items), rest)
    | .openObject :: .closeObject :: rest => some (.object [], rest)
    | .openObject :: .text name :: .colon :: rest => do
      let (value, rest) ← readValue fuel rest
      let (members, rest) ← readMembers fuel rest
      return (.object ((name, value) :: members), rest)
    | _ => none

/-- The items of a list after the first, and the tokens behind the list. -/
def readItems : Nat → List Token → Option (List Json × List Token)
  | 0, _ => none
  | fuel + 1, ts =>
    match ts with
    | .closeList :: rest => some ([], rest)
    | .comma :: rest => do
      let (item, rest) ← readValue fuel rest
      let (items, rest) ← readItems fuel rest
      return (item :: items, rest)
    | _ => none

/-- The members of an object after the first, and the tokens behind the object. -/
def readMembers : Nat → List Token → Option (List (String × Json) × List Token)
  | 0, _ => none
  | fuel + 1, ts =>
    match ts with
    | .closeObject :: rest => some ([], rest)
    | .comma :: .text name :: .colon :: rest => do
      let (value, rest) ← readValue fuel rest
      let (members, rest) ← readMembers fuel rest
      return ((name, value) :: members, rest)
    | _ => none

end

/-- The value of a JSON text. A value takes no more steps than it has tokens. -/
def read (text : String) : Option Json := do
  let ts ← tokenize text.toList
  let (v, rest) ← readValue ts.length ts
  if rest = [] then return v else none

/-- What is read stands in front of what is left. -/
theorem eq_append_of_read (fuel : Nat) :
    (∀ ts v rest, readValue fuel ts = some (v, rest) → ts = v.tokens ++ rest) ∧
    (∀ ts items rest, readItems fuel ts = some (items, rest) →
      ts = itemTokens items ++ .closeList :: rest) ∧
    ∀ ts members rest, readMembers fuel ts = some (members, rest) →
      ts = memberTokens members ++ .closeObject :: rest := by
  induction fuel with
  | zero => simp [readValue, readItems, readMembers]
  | succ fuel ih =>
    obtain ⟨ihValue, ihItems, ihMembers⟩ := ih
    refine ⟨fun ts v rest h => ?_, fun ts items rest h => ?_, fun ts members rest h => ?_⟩
    · rw [readValue.eq_def] at h
      dsimp only at h
      split at h
      · cases h
        rfl
      · cases h
        rfl
      · simp only [Option.bind_eq_bind, Option.bind_eq_some_iff, Option.pure_def, Option.some.injEq,
          Prod.mk.injEq, Prod.exists] at h
        obtain ⟨item, behind, hitem, items, behind', hitems, rfl, rfl⟩ := h
        rw [ihValue _ _ _ hitem, ihItems _ _ _ hitems]
        simp [tokens]
      · cases h
        rfl
      · simp only [Option.bind_eq_bind, Option.bind_eq_some_iff, Option.pure_def, Option.some.injEq,
          Prod.mk.injEq, Prod.exists] at h
        obtain ⟨value, behind, hvalue, members, behind', hmembers, rfl, rfl⟩ := h
        rw [ihValue _ _ _ hvalue, ihMembers _ _ _ hmembers]
        simp [tokens]
      · cases h
    · rw [readItems.eq_def] at h
      dsimp only at h
      split at h
      · cases h
        rfl
      · simp only [Option.bind_eq_bind, Option.bind_eq_some_iff, Option.pure_def, Option.some.injEq,
          Prod.mk.injEq, Prod.exists] at h
        obtain ⟨item, behind, hitem, items, behind', hitems, rfl, rfl⟩ := h
        rw [ihValue _ _ _ hitem, ihItems _ _ _ hitems]
        simp [itemTokens]
      · cases h
    · rw [readMembers.eq_def] at h
      dsimp only at h
      split at h
      · cases h
        rfl
      · simp only [Option.bind_eq_bind, Option.bind_eq_some_iff, Option.pure_def, Option.some.injEq,
          Prod.mk.injEq, Prod.exists] at h
        obtain ⟨value, behind, hvalue, members, behind', hmembers, rfl, rfl⟩ := h
        rw [ihValue _ _ _ hvalue, ihMembers _ _ _ hmembers]
        simp [memberTokens]
      · cases h

/-- No value starts where a list ends. -/
theorem tokens_append_ne (v : Json) (rest rest' : List Token) :
    v.tokens ++ rest ≠ .closeList :: rest' := by
  match v with
  | .text s => simp [tokens]
  | .list [] => simp [tokens]
  | .list (item :: items) => simp [tokens]
  | .object [] => simp [tokens]
  | .object ((name, value) :: members) => simp [tokens]

mutual

/-- A value is read from its tokens in as many steps. -/
theorem readValue_tokens : ∀ (v : Json) (fuel : Nat) (rest : List Token), v.tokens.length ≤ fuel →
    readValue fuel (v.tokens ++ rest) = some (v, rest)
  | .text s, fuel + 1, rest, _ => rfl
  | .list [], fuel + 1, rest, _ => rfl
  | .list (item :: items), fuel + 1, rest, h => by
    simp only [tokens, List.cons_append, List.length_cons, List.length_append, List.length_nil,
      List.append_assoc, List.nil_append] at h ⊢
    rw [readValue, readValue_tokens item fuel _ (by omega)]
    · simp only [Option.bind_eq_bind, Option.bind_some]
      rw [readItems_itemTokens items fuel rest (by omega)]
      rfl
    · exact fun rest' => tokens_append_ne item _ rest'
  | .object [], fuel + 1, rest, _ => rfl
  | .object ((name, value) :: members), fuel + 1, rest, h => by
    simp only [tokens, List.cons_append, List.length_cons, List.length_append, List.length_nil,
      List.append_assoc, List.nil_append] at h ⊢
    rw [readValue, readValue_tokens value fuel _ (by omega)]
    simp only [Option.bind_eq_bind, Option.bind_some]
    rw [readMembers_memberTokens members fuel rest (by omega)]
    rfl

/-- The items of a list after the first are read from their tokens. -/
theorem readItems_itemTokens : ∀ (items : List Json) (fuel : Nat) (rest : List Token),
    (itemTokens items).length < fuel →
      readItems fuel (itemTokens items ++ .closeList :: rest) = some (items, rest)
  | [], fuel + 1, rest, _ => rfl
  | item :: items, fuel + 1, rest, h => by
    simp only [itemTokens, List.cons_append, List.length_cons, List.length_append,
      List.append_assoc] at h ⊢
    rw [readItems, readValue_tokens item fuel _ (by omega)]
    simp only [Option.bind_eq_bind, Option.bind_some]
    rw [readItems_itemTokens items fuel rest (by omega)]
    rfl

/-- The members of an object after the first are read from their tokens. -/
theorem readMembers_memberTokens : ∀ (members : List (String × Json)) (fuel : Nat)
    (rest : List Token), (memberTokens members).length < fuel →
      readMembers fuel (memberTokens members ++ .closeObject :: rest) = some (members, rest)
  | [], fuel + 1, rest, _ => rfl
  | (name, value) :: members, fuel + 1, rest, h => by
    simp only [memberTokens, List.cons_append, List.length_cons, List.length_append,
      List.append_assoc] at h ⊢
    rw [readMembers, readValue_tokens value fuel _ (by omega)]
    simp only [Option.bind_eq_bind, Option.bind_some]
    rw [readMembers_memberTokens members fuel rest (by omega)]
    rfl

end

/-- A text is read as a value exactly if its tokens are those of the value. -/
theorem read_eq_some_iff (text : String) (v : Json) :
    read text = some v ↔ tokenize text.toList = some v.tokens := by
  simp only [read, Option.bind_eq_bind, Option.bind_eq_some_iff, Option.pure_def, Prod.exists,
    Option.ite_none_right_eq_some, Option.some.injEq]
  constructor
  · rintro ⟨ts, htokens, v', rest, hread, rfl, rfl⟩
    rw [htokens, (eq_append_of_read _).1 _ _ _ hread, List.append_nil]
  · intro htokens
    have hread := readValue_tokens v v.tokens.length [] (Nat.le_refl _)
    rw [List.append_nil] at hread
    exact ⟨v.tokens, htokens, v, [], hread, rfl, rfl⟩

/-- A written value is read back, with white space around it. -/
theorem read_write {indent : Option (List Char)} (hindent : IsSpaced indent) (v : Json)
    {behind : List Char} (hbehind : ∀ c ∈ behind, isSpace c = true) :
    read (String.ofList (write indent 0 v ++ behind)) = some v := by
  have hlexes := (lexes_write hindent 0 v).append (Lexes.space hbehind) []
  rw [read_eq_some_iff, String.toList_ofList]
  simpa [tokenize] using hlexes

end Json

end Registrar.Text
