import FramedLines.Json.Parser
import FramedLines.Json.Printer
import FramedLines.Proofs.Tokens

-- A JSON value in any layout is read as that value, and what is printed is one of its layouts.

namespace FramedLines.Json

-- Induction over a value with all the values inside it.
@[elab_as_elim]
theorem nested {motive : Json → Prop} (null : motive .null) (bool : ∀ b, motive (.bool b))
    (number : ∀ spelling, motive (.number spelling)) (string : ∀ text, motive (.string text))
    (array : ∀ items, (∀ item ∈ items, motive item) → motive (.array items))
    (object : ∀ members, (∀ member ∈ members, motive member.2) → motive (.object members))
    (json : Json) : motive json :=
  match json with
  | .null => null
  | .bool b => bool b
  | .number spelling => number spelling
  | .string text => string text
  | .array items =>
      array items fun item _ => nested null bool number string array object item
  | .object members =>
      object members fun member _ => nested null bool number string array object member.2
termination_by json
decreasing_by
  · have hlt := List.sizeOf_lt_of_mem ‹item ∈ items›
    simp only [Json.array.sizeOf_spec]
    omega
  · have hlt := List.sizeOf_lt_of_mem ‹member ∈ members›
    cases member
    simp only [Json.object.sizeOf_spec, Prod.mk.sizeOf_spec] at *
    omega

mutual

-- The pieces a value is written with.
def tokens : Json → List Token
  | .null => [.null]
  | .bool b => [.bool b]
  | .number spelling => [.number spelling]
  | .string text => [.string text]
  | .array items => .openBracket :: ([.comma].intercalate (itemTokens items) ++ [.closeBracket])
  | .object members => .openBrace :: ([.comma].intercalate (memberTokens members) ++ [.closeBrace])

def itemTokens : List Json → List (List Token)
  | [] => []
  | item :: items => item.tokens :: itemTokens items

def memberTokens : List (Option (List Char) × Json) → List (List Token)
  | [] => []
  | (name, value) :: members => (.string name :: .colon :: value.tokens) :: memberTokens members

end

-- A text that spells a value, however it is laid out.
def Written (json : Json) (text : String) : Prop := Token.Laid json.tokens text.toList

theorem itemTokens_eq (items : List Json) : itemTokens items = items.map tokens := by
  induction items with
  | nil => rfl
  | cons item items ih => rw [itemTokens, ih, List.map_cons]

theorem memberTokens_eq (members : List (Option (List Char) × Json)) :
    memberTokens members =
      members.map fun (name, value) => .string name :: .colon :: value.tokens := by
  induction members with
  | nil => rfl
  | cons member members ih => rw [memberTokens, ih, List.map_cons]

namespace Token

theorem Apart.mark_cons {mark : Token} {tokens : List Token} (hmark : mark.isMark)
    (h : Apart tokens) : Apart (mark :: tokens) :=
  List.isChain_cons.mpr ⟨fun _ _ => .inl hmark, h⟩

theorem Apart.append_mark {mark : Token} {tokens rest : List Token} (hmark : mark.isMark)
    (h : Apart tokens) (hrest : Apart rest) : Apart (tokens ++ mark :: rest) := by
  refine List.isChain_append.mpr ⟨h, hrest.mark_cons hmark, fun _ _ second hsecond => .inr ?_⟩
  rwa [← Option.some.inj hsecond]

theorem Apart.intercalate {lists : List (List Token)} (h : ∀ tokens ∈ lists, Apart tokens) :
    Apart ([Token.comma].intercalate lists) := by
  induction lists with
  | nil => exact List.isChain_nil
  | cons tokens lists ih =>
      have hfirst := h tokens (List.mem_cons_self ..)
      cases lists with
      | nil => rwa [List.intercalate_singleton]
      | cons next lists =>
          rw [List.intercalate_cons_cons, List.append_assoc]
          exact hfirst.append_mark trivial
            (ih fun tokens htokens => h tokens (List.mem_cons_of_mem _ htokens))

theorem Apart.enclosed {opening closing : Token} {lists : List (List Token)}
    (hopening : opening.isMark) (hclosing : closing.isMark)
    (h : ∀ tokens ∈ lists, Apart tokens) :
    Apart (opening :: ([Token.comma].intercalate lists ++ [closing])) :=
  .mark_cons hopening (.append_mark hclosing (.intercalate h) List.isChain_nil)

theorem Laid.intercalate {α : Type} {items : List α} {tokens : α → List Token}
    {chars : α → List Char} (h : ∀ item ∈ items, Laid (tokens item) (chars item)) :
    Laid ([Token.comma].intercalate (items.map tokens)) ([','].intercalate (items.map chars)) := by
  induction items with
  | nil => exact .done fun _ hc => nomatch hc
  | cons item items ih =>
      have hfirst := h item (List.mem_cons_self ..)
      cases items with
      | nil => simpa only [List.map_cons, List.map_nil, List.intercalate_singleton] using hfirst
      | cons next items =>
          simp only [List.map_cons, List.intercalate_cons_cons]
          exact (hfirst.append (.single .comma)).append
            (ih fun item hitem => h item (List.mem_cons_of_mem _ hitem))

end Token

theorem tokens_apart (json : Json) : Token.Apart json.tokens := by
  induction json using nested with
  | array items ih =>
      rw [tokens, itemTokens_eq]
      refine .enclosed trivial trivial fun tokens htokens => ?_
      obtain ⟨item, hitem, rfl⟩ := List.mem_map.mp htokens
      exact ih item hitem
  | object members ih =>
      rw [tokens, memberTokens_eq]
      refine .enclosed trivial trivial fun tokens htokens => ?_
      obtain ⟨member, hmember, rfl⟩ := List.mem_map.mp htokens
      change Token.Apart ([.string member.1] ++ .colon :: member.2.tokens)
      exact .append_mark trivial (List.isChain_singleton _) (ih member hmember)
  | _ => exact List.isChain_singleton _

-- No value begins with a bracket that closes.
theorem tokens_ne_closeBracket (json : Json) (rest more : List Token) :
    json.tokens ++ rest ≠ .closeBracket :: more := by
  cases json <;> exact fun h => Token.noConfusion (List.cons.inj h).1

theorem value?_openBracket {tokens : List Token} (h : ∀ more, tokens ≠ .closeBracket :: more)
    (fuel : Nat) :
    value? (fuel + 1) (.openBracket :: tokens) =
      (items? fuel tokens).map fun (items, rest) => (.array items, rest) := by
  rw [value?]
  exact h

theorem value?_openBrace {tokens : List Token} (h : ∀ more, tokens ≠ .closeBrace :: more)
    (fuel : Nat) :
    value? (fuel + 1) (.openBrace :: tokens) =
      (members? fuel tokens).map fun (members, rest) => (.object members, rest) := by
  rw [value?]
  exact h

theorem intercalate_single {α : Type} (separator : α) (first next : List α)
    (lists : List (List α)) :
    [separator].intercalate (first :: next :: lists) =
      first ++ separator :: [separator].intercalate (next :: lists) := by
  rw [List.intercalate_cons_cons, List.append_assoc, List.singleton_append]

theorem intercalate_front (first : List Token) (lists : List (List Token)) (rest : List Token) :
    ∃ behind, [Token.comma].intercalate (first :: lists) ++ rest = first ++ behind := by
  cases lists with
  | nil => exact ⟨rest, by rw [List.intercalate_singleton]⟩
  | cons next lists => exact ⟨_, by rw [intercalate_single, List.append_assoc]⟩

-- The fuel counts two for each piece, and one more where the list itself is entered.
theorem items?_written {items : List Json} (hne : items ≠ []) {fuel : Nat} {rest : List Token}
    (hvalue : ∀ item ∈ items, ∀ fuel rest, 2 * item.tokens.length ≤ fuel →
      value? fuel (item.tokens ++ rest) = some (item, rest))
    (hfuel : 2 * ([Token.comma].intercalate (itemTokens items)).length + 1 ≤ fuel) :
    items? fuel ([Token.comma].intercalate (itemTokens items) ++ .closeBracket :: rest) =
      some (items, rest) := by
  induction items generalizing fuel with
  | nil => exact absurd rfl hne
  | cons item items ih =>
      have hfirst := hvalue item (List.mem_cons_self ..)
      obtain ⟨fuel, rfl⟩ : ∃ less, fuel = less + 1 := ⟨fuel - 1, by omega⟩
      cases items with
      | nil =>
          simp only [itemTokens, List.intercalate_singleton] at hfuel ⊢
          rw [items?, hfirst fuel _ (by omega)]
      | cons next items =>
          have hsplit : [Token.comma].intercalate (itemTokens (item :: next :: items)) =
              item.tokens ++ .comma :: [Token.comma].intercalate (itemTokens (next :: items)) :=
            intercalate_single _ _ _ _
          rw [hsplit, List.length_append, List.length_cons] at hfuel
          have hshort : 2 * ([Token.comma].intercalate (itemTokens (next :: items))).length + 1 ≤
              fuel := by omega
          have hmore := ih (List.cons_ne_nil _ _)
            (fun item hitem => hvalue item (List.mem_cons_of_mem _ hitem)) hshort
          rw [hsplit, List.append_assoc, List.cons_append, items?, hfirst fuel _ (by omega)]
          simp only [hmore, Option.map_some]

theorem members?_written {members : List (Option (List Char) × Json)} (hne : members ≠ [])
    {fuel : Nat} {rest : List Token}
    (hvalue : ∀ member ∈ members, ∀ fuel rest, 2 * member.2.tokens.length ≤ fuel →
      value? fuel (member.2.tokens ++ rest) = some (member.2, rest))
    (hfuel : 2 * ([Token.comma].intercalate (memberTokens members)).length + 1 ≤ fuel) :
    members? fuel ([Token.comma].intercalate (memberTokens members) ++ .closeBrace :: rest) =
      some (members, rest) := by
  induction members generalizing fuel with
  | nil => exact absurd rfl hne
  | cons member members ih =>
      obtain ⟨name, value⟩ := member
      have hfirst : ∀ fuel rest, 2 * value.tokens.length ≤ fuel →
          value? fuel (value.tokens ++ rest) = some (value, rest) :=
        hvalue (name, value) (List.mem_cons_self ..)
      obtain ⟨fuel, rfl⟩ : ∃ less, fuel = less + 1 := ⟨fuel - 1, by omega⟩
      cases members with
      | nil =>
          simp only [memberTokens, List.intercalate_singleton, List.length_cons] at hfuel ⊢
          rw [List.cons_append, List.cons_append, members?, hfirst fuel _ (by omega)]
      | cons next members =>
          have hsplit :
              [Token.comma].intercalate (memberTokens ((name, value) :: next :: members)) =
              .string name :: .colon :: value.tokens ++
                .comma :: [Token.comma].intercalate (memberTokens (next :: members)) :=
            intercalate_single _ _ _ _
          rw [hsplit, List.length_append, List.length_cons, List.length_cons,
            List.length_cons] at hfuel
          have hshort : 2 * ([Token.comma].intercalate
              (memberTokens (next :: members))).length + 1 ≤ fuel := by omega
          have hmore := ih (List.cons_ne_nil _ _)
            (fun member hmember => hvalue member (List.mem_cons_of_mem _ hmember)) hshort
          rw [hsplit, List.append_assoc, List.cons_append, List.cons_append, List.cons_append,
            members?, hfirst fuel _ (by omega)]
          simp only [hmore, Option.map_some]

theorem value?_tokens (json : Json) (fuel : Nat) (rest : List Token)
    (hfuel : 2 * json.tokens.length ≤ fuel) :
    value? fuel (json.tokens ++ rest) = some (json, rest) := by
  induction json using nested generalizing fuel rest with
  | array items ih =>
      rw [tokens] at hfuel ⊢
      simp only [List.length_cons, List.length_append, List.length_nil] at hfuel
      obtain ⟨fuel, rfl⟩ : ∃ less, fuel = less + 1 := ⟨fuel - 1, by omega⟩
      rw [List.cons_append, List.append_assoc, List.singleton_append]
      cases items with
      | nil => rfl
      | cons item items =>
          have hopen : ∀ more, [Token.comma].intercalate (itemTokens (item :: items)) ++
              .closeBracket :: rest ≠ .closeBracket :: more := by
            obtain ⟨behind, hfront⟩ := intercalate_front item.tokens (itemTokens items) _
            rw [itemTokens, hfront]
            exact item.tokens_ne_closeBracket behind
          rw [value?_openBracket hopen, items?_written (List.cons_ne_nil _ _) ih (by omega),
            Option.map_some]
  | object members ih =>
      rw [tokens] at hfuel ⊢
      simp only [List.length_cons, List.length_append, List.length_nil] at hfuel
      obtain ⟨fuel, rfl⟩ : ∃ less, fuel = less + 1 := ⟨fuel - 1, by omega⟩
      rw [List.cons_append, List.append_assoc, List.singleton_append]
      cases members with
      | nil => rfl
      | cons member members =>
          have hopen : ∀ more, [Token.comma].intercalate (memberTokens (member :: members)) ++
              .closeBrace :: rest ≠ .closeBrace :: more := by
            obtain ⟨behind, hfront⟩ := intercalate_front
              (.string member.1 :: .colon :: member.2.tokens) (memberTokens members) _
            rw [memberTokens, hfront]
            exact fun _ h => Token.noConfusion (List.cons.inj h).1
          rw [value?_openBrace hopen, members?_written (List.cons_ne_nil _ _) ih (by omega),
            Option.map_some]
  | _ =>
      simp only [tokens, List.length_singleton] at hfuel
      obtain ⟨fuel, rfl⟩ : ∃ less, fuel = less + 1 := ⟨fuel - 1, by omega⟩
      rfl

-- Whatever the layout, a text that spells a value is read as that value.
theorem parse?_of_written {json : Json} {text : String} (h : json.Written text) :
    parse? text = some json := by
  have hvalue := value?_tokens json (2 * json.tokens.length + 1) [] (Nat.le_succ _)
  rw [List.append_nil] at hvalue
  rw [parse?, Token.ofText?_laid h json.tokens_apart, Option.bind_some, ofTokens?, hvalue]

-- A value that has a notation: its numbers are numbers and its strings have a text.
inductive Printable : Json → Prop where
  | null : Printable .null
  | bool (b : Bool) : Printable (.bool b)
  | number {spelling : List Char} (h : Numeral spelling) : Printable (.number spelling)
  | string (text : List Char) : Printable (.string (some text))
  | array {items : List Json} (h : ∀ item ∈ items, Printable item) : Printable (.array items)
  | object {members : List (Option (List Char) × Json)}
      (hname : ∀ member ∈ members, member.1.isSome)
      (h : ∀ member ∈ members, Printable member.2) : Printable (.object members)

theorem isHex_hexDigit (value : Nat) : IsHex (hexDigit value) (value % 16) :=
  ⟨Nat.mod_lt _ (by decide), .inl rfl⟩

-- Every character is written as itself or as an escape that says it.
theorem quoteChar_written (c : Char) {units : List StringUnit} {text body : List Char}
    (hmeant : StringUnit.Says units text) (hwritten : StringUnit.Written units body) :
    ∃ units, StringUnit.Says units (c :: text) ∧
      StringUnit.Written units (quoteChar c ++ body) := by
  rw [quoteChar.eq_def]
  split
  case h_8 hquote hslash _ _ _ _ _ =>
      split
      · next hcontrol =>
          have hunit : ((0 * 16 + 0) * 16 + c.toNat / 16 % 16) * 16 + c.toNat % 16 = c.toNat := by
            omega
          have hunits : (utf16 c).map StringUnit.escape = [.escape c.toNat] := by
            rw [utf16, if_pos (by omega)]
            rfl
          have hzero : IsHex '0' 0 := ⟨by decide, .inl rfl⟩
          have hnumber := StringUnit.Written.number hzero hzero (isHex_hexDigit (c.toNat / 16))
            (isHex_hexDigit c.toNat) hwritten
          rw [hunit] at hnumber
          exact ⟨_, .escaped hmeant, by rwa [hunits]⟩
      · next hplain => exact ⟨_, .char hmeant, .plain hquote hslash (Nat.not_lt.mp hplain) hwritten⟩
  all_goals
    refine ⟨_, .char hmeant, .letter ?_ hwritten⟩
    decide

theorem quote_spelled (text : List Char) : Token.Spelled (.string (some text)) (quote text) := by
  have hbody : ∃ units, StringUnit.Says units text ∧
      StringUnit.Written units (text.flatMap quoteChar) := by
    induction text with
    | nil => exact ⟨[], .nil, .nil⟩
    | cons c text ih =>
        obtain ⟨units, hmeant, hwritten⟩ := ih
        exact quoteChar_written c hmeant hwritten
  obtain ⟨units, hmeant, hwritten⟩ := hbody
  exact .text hmeant hwritten

theorem itemChars_eq (items : List Json) :
    itemChars items = [','].intercalate (items.map chars) := by
  induction items with
  | nil => rfl
  | cons item items ih =>
      cases items with
      | nil => rw [itemChars, List.map_cons, List.map_nil, List.intercalate_singleton]
      | cons next items =>
          rw [itemChars, ih]
          · exact (intercalate_single ..).symm
          · exact List.cons_ne_nil _ _

theorem memberChars_eq (members : List (Option (List Char) × Json)) :
    memberChars members =
      [','].intercalate
        (members.map fun (name, value) => quote (name.getD []) ++ ':' :: value.chars) := by
  induction members with
  | nil => rfl
  | cons member members ih =>
      cases members with
      | nil => rw [memberChars, List.map_cons, List.map_nil, List.intercalate_singleton]
      | cons next members =>
          rw [memberChars, ih]
          · exact (intercalate_single ..).symm
          · exact List.cons_ne_nil _ _

theorem chars_laid {json : Json} (h : json.Printable) : Token.Laid json.tokens json.chars := by
  induction h with
  | null => exact .single .null
  | bool b => cases b <;> exact .single (by constructor)
  | number h => exact .single (.number h)
  | string text => exact .single (quote_spelled text)
  | @array items _ ih =>
      rw [tokens, chars, itemTokens_eq, itemChars_eq]
      exact (Token.Laid.single .openBracket).append
        ((Token.Laid.intercalate ih).append (.single .closeBracket))
  | @object members hname _ ih =>
      rw [tokens, chars, memberTokens_eq, memberChars_eq]
      refine (Token.Laid.single .openBrace).append
        ((Token.Laid.intercalate fun member hmember => ?_).append (.single .closeBrace))
      obtain ⟨name, value⟩ := member
      obtain ⟨text, rfl⟩ := Option.isSome_iff_exists.mp (hname (name, value) hmember)
      exact (Token.Laid.single (quote_spelled text)).append
        ((Token.Laid.single .colon).append (ih (some text, value) hmember))

-- What is printed is one of the layouts.
theorem written_render {json : Json} (h : json.Printable) : json.Written json.render := by
  rw [Written, render, String.toList_ofList]
  exact chars_laid h

end FramedLines.Json
