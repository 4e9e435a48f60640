import Workflow.Proofs.Json.ReadBack

/-!
# Texts cut short

A reader that has stopped before the end of a text has not looked at what it left, so it reads
the same where more follows. An array is not over before its bracket, and behind the bracket the
reader looks for nothing: if a front of a text is read as an array, the whole text leaves
whatever comes after that front. Where the whole text is that of an array and of nothing else, no
shorter front is the text of any value.
-/

namespace Workflow

namespace ParseTree

variable {α β : Type}

/-- A reader that leaves something does not look further: of a longer text it reads the same, and
leaves so much more. -/
def Steady (read : List Char → Option (α × List Char)) : Prop :=
  ∀ text value rest, read text = some (value, rest) → rest ≠ [] →
    ∀ more, read (text ++ more) = some (value, rest ++ more)

section Steady

variable {read other : List Char → Option (α × List Char)}
  {next : α → List Char → Option (β × List Char)}

/-- One reader goes on where the other has stopped. Nothing is left of nothing. -/
theorem Steady.bind (first : Steady read) (second : ∀ value, Steady (next value))
    (empty : ∀ value result rest, next value [] = some (result, rest) → rest = []) :
    Steady fun text => (read text).bind fun taken => next taken.1 taken.2 := by
  intro text value rest whole left more
  obtain ⟨⟨taken, between⟩, begun, ended⟩ := Option.bind_eq_some_iff.mp whole
  have between_left : between ≠ [] := by
    rintro rfl
    exact left (empty _ _ _ ended)
  dsimp only
  rw [first text taken between begun between_left more, Option.bind_some]
  exact second taken between value rest ended left more

theorem steady_pure (value : α) : Steady fun text => some (value, text) := by
  rintro text _ _ ⟨⟩ left more
  rfl

theorem Steady.congr (steady : Steady read) (same : ∀ text, other text = read text) :
    Steady other := by
  rwa [funext same]

theorem Steady.cons (steady : Steady read) (c : Char) : Steady fun text => read (c :: text) :=
  fun text => steady (c :: text)

/-- A reader may be looked at for each first character by itself. -/
theorem steady_of_cons (empty : ∀ value rest, read [] = some (value, rest) → rest = [])
    (each : ∀ c, Steady fun text => read (c :: text)) : Steady read := by
  intro text value rest done left more
  cases text with
  | nil => exact absurd (empty value rest done) left
  | cons c text => exact each c text value rest done left more

/-- A reader is steady that makes of a text what it makes of the leading digits alone. -/
theorem steady_of_digits (read_eq : ∀ text, read text =
      (read (takeDigits text).1).map fun taken => (taken.1, (takeDigits text).2)) :
    Steady read := by
  intro text value rest done left more
  rw [read_eq] at done
  obtain ⟨_, made, same⟩ := Option.map_eq_some_iff.mp done
  cases same
  rw [read_eq, takeDigits_append_of_left left]
  simp only [made, Option.map_some]

end Steady

/-! ## Numerals -/

theorem steady_readWhole : Steady readWhole := by
  refine steady_of_digits fun text => ?_
  rw [readWhole, readWhole, takeDigits_takeDigits]
  obtain ⟨digits, rest⟩ := takeDigits text
  rcases digits with _ | ⟨c, _ | ⟨d, digits⟩⟩
  · rfl
  · by_cases zero : c = '0' <;> simp [zero]
  · by_cases zero : c = '0' <;> simp [zero]

theorem steady_readFraction : Steady readFraction := by
  refine steady_of_cons (by rintro _ _ ⟨⟩; rfl) fun c => ?_
  by_cases point : c = '.'
  · subst point
    refine steady_of_digits fun text => ?_
    rw [readFraction, readFraction, takeDigits_takeDigits]
    obtain ⟨digits, rest⟩ := takeDigits text
    cases digits <;> rfl
  · refine ((steady_pure []).cons c).congr fun text => ?_
    simp [readFraction, point]

theorem steady_readExponentDigits (negative : Bool) : Steady (readExponentDigits negative) := by
  refine steady_of_digits fun text => ?_
  rw [readExponentDigits, readExponentDigits, takeDigits_takeDigits]
  obtain ⟨digits, rest⟩ := takeDigits text
  cases digits <;> rfl

/-- Behind the mark of an exponent a sign may come first. -/
theorem steady_readExponent_cons {mark : Char} (isMark : mark = 'e' ∨ mark = 'E') :
    Steady fun text => readExponent (mark :: text) := by
  refine steady_of_cons (by rcases isMark with rfl | rfl <;> rintro _ _ ⟨⟩) fun c => ?_
  by_cases plus : c = '+'
  · subst plus
    rcases isMark with rfl | rfl
    · exact steady_readExponentDigits false
    · exact steady_readExponentDigits false
  by_cases minus : c = '-'
  · subst minus
    rcases isMark with rfl | rfl
    · exact steady_readExponentDigits true
    · exact steady_readExponentDigits true
  · refine ((steady_readExponentDigits false).cons c).congr fun text => ?_
    rcases isMark with rfl | rfl <;> simp [readExponent, plus, minus]

theorem steady_readExponent : Steady readExponent := by
  refine steady_of_cons (by rintro _ _ ⟨⟩; rfl) fun c => ?_
  by_cases isMark : c = 'e' ∨ c = 'E'
  · exact steady_readExponent_cons isMark
  · refine ((steady_pure none).cons c).congr fun text => ?_
    rw [readExponent] <;> simp_all

theorem steady_readUnsigned (negative : Bool) : Steady (readUnsigned negative) := by
  refine steady_readWhole.bind (fun whole => steady_readFraction.bind (fun fraction =>
    steady_readExponent.bind (fun exponent =>
      steady_pure (ParseTree.number (Number.ofDigits? negative whole fraction exponent))) ?_) ?_) ?_
  all_goals
    rintro _ _ _ ⟨⟩
    rfl

theorem steady_readNumber : Steady readNumber := by
  refine steady_of_cons (by rintro _ _ ⟨⟩) fun c => ?_
  by_cases minus : c = '-'
  · subst minus
    exact steady_readUnsigned true
  · refine ((steady_readUnsigned false).cons c).congr fun text => ?_
    rw [readNumber]
    simp [minus]

/-! ## Strings -/

/-- A string ends at its closing quotation mark, whatever follows. -/
theorem readPieces_append {text rest : List Char} {pieces : List Piece}
    (read : readPieces text = some (pieces, rest)) (more : List Char) :
    readPieces (text ++ more) = some (pieces, rest ++ more) := by
  fun_induction readPieces text generalizing pieces rest with
  | case1 => cases read
  | case2 rest' =>
      cases read
      rfl
  | case3 a b c d text ih =>
      obtain ⟨n, unit, read⟩ := Option.bind_eq_some_iff.mp read
      obtain ⟨⟨pieces', rest'⟩, others, same⟩ := Option.bind_eq_some_iff.mp read
      cases same
      simp [readPieces, unit, ih others]
  | case4 e text notUnit ih =>
      obtain ⟨c, means, read⟩ := Option.bind_eq_some_iff.mp read
      obtain ⟨⟨pieces', rest'⟩, others, same⟩ := Option.bind_eq_some_iff.mp read
      cases same
      have notU : e ≠ 'u' := by
        rintro rfl
        cases means
      simp [readPieces, means, notU, ih others]
  | case5 c text notQuote notUnit notEscape bad => cases read
  | case6 c text notQuote notUnit notEscape good ih =>
      obtain ⟨⟨pieces', rest'⟩, others, same⟩ := Option.bind_eq_some_iff.mp read
      cases same
      rw [List.cons_append, readPieces, if_neg good, ih others]
      · rfl
      · exact notQuote
      · intro _ _ _ _ _ escape
        exact absurd (.inr escape) good
      · intro _ _ escape
        exact absurd (.inr escape) good

theorem readString_append {text rest : List Char} {s : Option String}
    (read : readString text = some (s, rest)) (more : List Char) :
    readString (text ++ more) = some (s, rest ++ more) := by
  obtain ⟨⟨pieces, rest'⟩, taken, same⟩ := Option.bind_eq_some_iff.mp read
  cases same
  rw [readString, readPieces_append taken]
  rfl

/-! ## Values -/

theorem skipSpace_append_of_left {text : List Char} {c : Char} {rest : List Char}
    (left : skipSpace text = c :: rest) (more : List Char) :
    skipSpace (text ++ more) = c :: (rest ++ more) := by
  rw [skipSpace] at left ⊢
  rw [List.dropWhile_append, left]
  rfl

theorem readValue_skipSpace (fuel : Nat) (text : List Char) :
    readValue fuel (skipSpace text) = readValue fuel text := by
  have blank : ∀ c ∈ text.takeWhile isSpace, isSpace c = true :=
    fun _ member => List.all_eq_true.mp List.all_takeWhile _ member
  have split : text.takeWhile isSpace ++ skipSpace text = text :=
    List.takeWhile_append_dropWhile
  rw [← readValue_append_space blank, split]

/-- The items of an array end at its bracket, whatever follows and with whatever more fuel. -/
def ItemsEnd (fuel : Nat) : Prop :=
  ∀ text items rest, readItems fuel text = some (items, rest) →
    ∀ enough, fuel ≤ enough → ∀ more, readItems enough (text ++ more) = some (items, rest ++ more)

/-- The members of an object end at its brace. -/
def MembersEnd (fuel : Nat) : Prop :=
  ∀ text members rest, readMembers fuel text = some (members, rest) →
    ∀ enough, fuel ≤ enough →
      ∀ more, readMembers enough (text ++ more) = some (members, rest ++ more)

/-- A value ends where something else is left, and an array ends at its bracket anyway. -/
def ValueEnds (fuel : Nat) : Prop :=
  ∀ text tree rest, readValue fuel text = some (tree, rest) →
    (rest = [] → (skipSpace text).head? = some '[') →
    ∀ enough, fuel ≤ enough → ∀ more, readValue enough (text ++ more) = some (tree, rest ++ more)

theorem ItemsEnd.succ {fuel : Nat} (value : ValueEnds fuel) (others : ItemsEnd fuel) :
    ItemsEnd (fuel + 1) := by
  intro text items rest read enough le more
  obtain ⟨enough, rfl⟩ : ∃ less, enough = less + 1 := ⟨enough - 1, by omega⟩
  have le := Nat.le_of_succ_le_succ le
  rw [readItems] at read
  obtain ⟨⟨item, between⟩, first, read⟩ := Option.bind_eq_some_iff.mp read
  dsimp only at read
  split at read
  · rename_i tail close
    cases read
    refine readItems_last (value _ _ _ first ?_ enough le more)
      (skipSpace_append_of_left close more)
    rintro rfl
    cases close
  · rename_i tail comma
    obtain ⟨⟨items, tail'⟩, second, same⟩ := Option.bind_eq_some_iff.mp read
    cases same
    refine readItems_more (value _ _ _ first ?_ enough le more)
      (skipSpace_append_of_left comma more) (others _ _ _ second enough le more)
    rintro rfl
    cases comma
  · cases read

theorem MembersEnd.succ {fuel : Nat} (value : ValueEnds fuel) (others : MembersEnd fuel) :
    MembersEnd (fuel + 1) := by
  intro text members rest read enough le more
  obtain ⟨enough, rfl⟩ : ∃ less, enough = less + 1 := ⟨enough - 1, by omega⟩
  have le := Nat.le_of_succ_le_succ le
  rw [readMembers] at read
  split at read
  · rename_i quoted start
    have start := skipSpace_append_of_left start more
    obtain ⟨⟨key, between⟩, name, read⟩ := Option.bind_eq_some_iff.mp read
    dsimp only at read
    have name := readString_append name more
    split at read
    · rename_i behind colon
      have colon := skipSpace_append_of_left colon more
      obtain ⟨⟨tree, after⟩, first, read⟩ := Option.bind_eq_some_iff.mp read
      dsimp only at read
      split at read
      · rename_i tail close
        cases read
        have first := value _ _ _ first (by rintro rfl; cases close) enough le more
        rw [readMembers, start]
        simp [name, colon, first, skipSpace_append_of_left close more]
      · rename_i tail comma
        obtain ⟨⟨members, tail'⟩, second, same⟩ := Option.bind_eq_some_iff.mp read
        cases same
        have first := value _ _ _ first (by rintro rfl; cases comma) enough le more
        have second := others _ _ _ second enough le more
        rw [readMembers, start]
        simp [name, colon, first, skipSpace_append_of_left comma more, second]
      · cases read
    · cases read
  · cases read

/-- A number ends where something else is left. -/
theorem readValue_append_of_readNumber {text rest : List Char} {tree : ParseTree}
    (number : readNumber (skipSpace text) = some (tree, rest)) (left : rest ≠ []) (fuel : Nat)
    (more : List Char) : readValue (fuel + 1) (text ++ more) = some (tree, rest ++ more) := by
  have longer := readValue_of_readNumber (steady_readNumber _ _ _ number left more) fuel
  cases first : skipSpace text with
  | nil =>
      rw [first] at number
      cases number
  | cons c tail =>
      rw [first] at longer
      rwa [← readValue_skipSpace, skipSpace_append_of_left first more]

theorem ValueEnds.succ {fuel : Nat} (items : ItemsEnd fuel) (members : MembersEnd fuel) :
    ValueEnds (fuel + 1) := by
  intro text tree rest read ends enough le more
  obtain ⟨enough, rfl⟩ : ∃ less, enough = less + 1 := ⟨enough - 1, by omega⟩
  have le := Nat.le_of_succ_le_succ le
  have start {c : Char} {tail : List Char} (first : skipSpace text = c :: tail) :=
    skipSpace_append_of_left first more
  rw [readValue] at read
  split at read
  case h_1 tail first | h_2 tail first | h_3 tail first =>
    -- a word of its own
    cases read
    rw [readValue, start first]
    rfl
  case h_4 tail first =>
    -- a string
    obtain ⟨⟨s, tail'⟩, quoted, same⟩ := Option.bind_eq_some_iff.mp read
    cases same
    rw [readValue, start first]
    simp [readString_append quoted]
  case h_5 tail first =>
    -- an array
    split at read
    case h_1 tail' close =>
      cases read
      rw [readValue, start first]
      simp [skipSpace_append_of_left close more]
    case h_2 opened =>
      obtain ⟨⟨list, tail'⟩, inside, same⟩ := Option.bind_eq_some_iff.mp read
      cases same
      rw [readItems_skipSpace] at inside
      rw [← readValue_skipSpace, start first]
      exact readValue_array (items _ _ _ inside enough le more)
  case h_6 tail first =>
    -- an object
    split at read
    case h_1 tail' close =>
      cases read
      rw [readValue, start first]
      simp [skipSpace_append_of_left close more]
    case h_2 opened =>
      obtain ⟨⟨list, tail'⟩, inside, same⟩ := Option.bind_eq_some_iff.mp read
      cases same
      have longer := members _ _ _ inside enough le more
      cases within : skipSpace tail with
      | nil =>
          rw [within] at inside
          cases fuel <;> cases inside
      | cons c behind =>
          have notClose : c ≠ '}' := by
            rintro rfl
            exact opened _ within
          rw [within, List.cons_append] at longer
          rw [readValue, start first]
          simp [skipSpace_append_of_left within more, notClose, longer]
  case h_7 tail first =>
    -- a number with a sign, which is no array
    refine readValue_append_of_readNumber (first ▸ read) ?_ enough more
    rintro rfl
    cases (first ▸ ends rfl :)
  case h_8 notNull notTrue notFalse notQuote notArray notObject notMinus =>
    -- any other number
    refine readValue_append_of_readNumber ?_ ?_ enough more
    · unfold readNumber
      split
      · rename_i minus
        exact absurd minus (notMinus _)
      · exact read
    · rintro rfl
      obtain ⟨tail, first⟩ := List.head?_eq_some_iff.mp (ends rfl)
      exact notArray _ first

theorem valueEnds (fuel : Nat) : ValueEnds fuel ∧ ItemsEnd fuel ∧ MembersEnd fuel := by
  induction fuel with
  | zero => exact ⟨fun _ _ _ => nofun, fun _ _ _ => nofun, fun _ _ _ => nofun⟩
  | succ fuel ih => exact ⟨.succ ih.2.1 ih.2.2, .succ ih.1 ih.2.1, .succ ih.1 ih.2.2⟩

end ParseTree

namespace Json

/-- The text of an array starts with its bracket. -/
theorem exists_pretty_array (items : List Json) :
    ∃ tail, (array items).pretty.toList = '[' :: tail := by
  rw [pretty, String.toList_ofList, ← Layout.spell_indented]
  cases items with
  | nil => exact ⟨_, rfl⟩
  | cons item items => exact ⟨_, rfl⟩

/-- The text of an array is that of no value when it is cut short. -/
theorem read_eq_none_of_cut {items : List Json} (legible : (array items).Legible)
    {front back : String} (split : (array items).pretty = front ++ back) (cut : back ≠ "") :
    ParseTree.read front = none := by
  refine Option.eq_none_iff_forall_ne_some.mpr fun tree read => ?_
  obtain ⟨⟨tree, rest⟩, first, -⟩ := Option.bind_eq_some_iff.mp read
  have whole := legible.readFirst_pretty
  have chars : (array items).pretty.toList = front.toList ++ back.toList := by
    rw [split, String.toList_append]
  have bracket : (ParseTree.skipSpace front.toList).head? = some '[' := by
    obtain ⟨tail, opens⟩ := exists_pretty_array items
    rw [chars] at opens
    cases start : front.toList with
    | nil =>
        rw [ParseTree.readFirst, start] at first
        cases first
    | cons c others =>
        rw [start] at opens
        cases opens
        rfl
  have long : 2 * front.length + 2 ≤ 2 * (array items).pretty.length + 2 := by
    rw [split, String.length_append]
    omega
  -- the whole text would be read as what its front is read as, and be left with the rest
  have longer := (ParseTree.valueEnds _).1 _ _ _ first (fun _ => bracket) _ long back.toList
  rw [← chars, ← ParseTree.readFirst, whole, Option.some.injEq, Prod.mk.injEq] at longer
  exact cut (String.toList_eq_nil_iff.mp (List.append_eq_nil_iff.mp longer.2.symm).2)

end Json

end Workflow
