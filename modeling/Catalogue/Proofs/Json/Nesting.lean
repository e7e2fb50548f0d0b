import Catalogue.Proofs.Json.Preceded

/-! Open objects. The machine that builds trees goes on in few ways (`step_of_move`). Braces open and
close objects and no other token does (`Step.changes`), and after the first token the outermost value
stays a list or an object (`Step.isRootObject_eq`). So where no object is open any more, the outermost
one is finished (`finished_of_opened`). -/
namespace Catalogue.Json

/-! ### Steps of the machine -/

/-- Where the machine goes on a token that a value begins with. -/
inductive Starts : Token → Stage → Prop where
  | openList : Starts .openList .firstItem
  | openObject : Starts .openObject .firstKey
  | null : Starts .null (.after .null)
  | bool (b : Bool) : Starts (.bool b) (.after (.bool b))
  | number (n : NumberContent) : Starts (.number n) (.after (.number n))
  | string (s : StringContent) : Starts (.string s) (.after (.string s))

/-- All that the machine can do to go on. -/
inductive Step : Stage → List Frame → Token → Stage → List Frame → Prop where
  | value {t : Token} {stage : Stage} (stack : List Frame) (h : Starts t stage) : Step .value stack t stage stack
  | firstItem {t : Token} {stage : Stage} (stack : List Frame) (h : Starts t stage) :
      Step .firstItem stack t stage (.list [] :: stack)
  | emptyList (stack : List Frame) : Step .firstItem stack .closeList (.after (.list [] none)) stack
  | nextItem (v : Document) (items : List Document) (below : List Frame) :
      Step (.after v) (.list items :: below) .comma .value (.list (v :: items) :: below)
  | endList (v : Document) (items : List Document) (below : List Frame) :
      Step (.after v) (.list items :: below) .closeList (.after (.list (v :: items).reverse none)) below
  | firstKey (s : StringContent) (stack : List Frame) : Step .firstKey stack (.string s) (.colon [] s) stack
  | nextKey (entries : List (StringContent × Document)) (s : StringContent) (stack : List Frame) :
      Step (.nextKey entries) stack (.string s) (.colon entries s) stack
  | colon (entries : List (StringContent × Document)) (key : StringContent) (stack : List Frame) :
      Step (.colon entries key) stack .colon .value (.object entries key :: stack)
  | nextEntry (v : Document) (entries : List (StringContent × Document)) (key : StringContent) (below : List Frame) :
      Step (.after v) (.object entries key :: below) .comma (.nextKey ((key, v) :: entries)) below
  | emptyObject (stack : List Frame) : Step .firstKey stack .closeObject (.after (.object [] none)) stack
  | endObject (v : Document) (entries : List (StringContent × Document)) (key : StringContent)
      (below : List Frame) : Step (.after v) (.object entries key :: below) .closeObject
        (.after (.object ((key, v) :: entries).reverse none)) below

variable {stage stage' : Stage} {stack stack' : List Frame} {t : Token}

theorem starts_of_startValue {missing : Fault} (h : startValue missing stack t = .next stage' stack') :
    Starts t stage' ∧ stack' = stack := by
  cases t <;> cases h <;> exact ⟨by constructor, rfl⟩

theorem step_of_move (h : move stage stack t = .next stage' stack') : Step stage stack t stage' stack' := by
  have hvalue (hstart : startValue (.of .expectedValue) stack t = .next stage' stack') :
      Step .value stack t stage' stack' := by
    obtain ⟨hstarts, rfl⟩ := starts_of_startValue hstart
    exact .value _ hstarts
  have hitem (hstart : startValue (.of .expectedValue) (.list [] :: stack) t = .next stage' stack') :
      Step .firstItem stack t stage' stack' := by
    obtain ⟨hstarts, rfl⟩ := starts_of_startValue hstart
    exact .firstItem _ hstarts
  cases stage with
  | value =>
    rcases stack with _ | ⟨items | ⟨entries, key⟩, below⟩
    · exact hvalue h
    · cases t <;> first | exact hvalue h | cases h
    · exact hvalue h
  | firstItem =>
    cases t with
    | closeList =>
      cases h
      exact .emptyList _
    | _ => exact hitem h
  | after v =>
    rcases stack with _ | ⟨items | ⟨entries, key⟩, below⟩
    · cases h
    · cases t <;> cases h <;> constructor
    · cases t <;> cases h <;> constructor
  | firstKey => cases t <;> cases h <;> constructor
  | nextKey entries =>
    cases t <;> cases h
    exact .nextKey ..
  | colon entries key =>
    cases t <;> cases h
    exact .colon ..

/-! ### Open objects -/

/-- Whether a tree is that of an object. -/
def Document.isObject : Document → Bool
  | .object _ _ => true
  | _ => false

/-- Whether an object is being read. -/
def Frame.isObject : Frame → Bool
  | .object _ _ => true
  | .list _ => false

/-- Whether an object is open that is not on the stack. -/
def Stage.inObject : Stage → Bool
  | .firstKey | .nextKey _ | .colon _ _ => true
  | .value | .firstItem | .after _ => false

/-- How many objects are open. -/
def opened (stage : Stage) (stack : List Frame) : Nat :=
  stage.inObject.toNat + stack.countP Frame.isObject

/-- Whether the outermost value is an object. -/
def isRootObject (stage : Stage) (stack : List Frame) : Bool :=
  match stack.getLast?, stage with
  | some frame, _ => frame.isObject
  | none, .after v => v.isObject
  | none, stage => stage.inObject

/-- How a token changes the number of open objects. -/
def Token.Changes : Token → Nat → Nat → Prop
  | .openObject, m, n => n = m + 1
  | .closeObject, m, n => m = n + 1
  | _, m, n => n = m

/-- Braces open and close objects, and no other token does. -/
theorem Step.changes (h : Step stage stack t stage' stack') :
    t.Changes (opened stage stack) (opened stage' stack') := by
  cases h with
  | value _ h | firstItem _ h =>
    cases h <;> simp [Token.Changes, opened, Stage.inObject, Frame.isObject, Nat.add_comm]
  | _ => simp [Token.Changes, opened, Stage.inObject, List.countP_cons, Frame.isObject, Nat.add_comm]

/-- After the first token, the outermost value stays what it is. -/
theorem Step.isRootObject_eq (h : Step stage stack t stage' stack') (hstart : stage = .value → stack ≠ []) :
    isRootObject stage' stack' = isRootObject stage stack := by
  cases h with
  | value _ h =>
    obtain ⟨frame, below, rfl⟩ := List.exists_cons_of_ne_nil (hstart rfl)
    rfl
  | firstItem stack _ | emptyList stack | emptyObject stack => cases stack <;> rfl
  | firstKey _ stack | nextKey _ _ stack | colon _ _ stack => cases stack <;> rfl
  | nextItem _ _ below => cases below <;> rfl
  | endList | nextEntry | endObject => cases stack' <;> rfl

/-- Where no object is open any more, the outermost object is finished. -/
theorem finished_of_opened (hroot : isRootObject stage stack = true) (h : opened stage stack = 0) :
    stack = [] ∧ ∃ v, stage = .after v := by
  obtain ⟨hstage, hstack⟩ := Nat.add_eq_zero_iff.mp h
  have hlast : stack.getLast? = none := by
    cases hlast : stack.getLast? with
    | none => rfl
    | some frame =>
      have hframe := List.countP_eq_zero.mp hstack frame (List.mem_of_getLast? hlast)
      simp only [isRootObject, hlast] at hroot
      exact absurd hroot hframe
  refine ⟨List.getLast?_eq_none_iff.mp hlast, ?_⟩
  cases stage with
  | after v => exact ⟨v, rfl⟩
  | value | firstItem => simp [isRootObject, hlast, Stage.inObject] at hroot
  | firstKey | nextKey | colon => cases hstage

theorem finished_of_endFault (h : (endFault stage stack).fault? = none) :
    stack = [] ∧ stage = .after (endFault stage stack) := by
  cases stage with
  | value | colon => exact absurd h (fault?_unwind _ _ (Option.some_ne_none _))
  | firstItem | firstKey | nextKey => exact absurd h (fault?_unwind _ _ (Option.some_ne_none _))
  | after v =>
    have hbuild : build (.after v) stack [] = (endFault (.after v) stack, false) := rfl
    obtain rfl := nil_of_build hbuild h
    exact ⟨rfl, rfl⟩

variable {d : Document}

/-- The tree that the machine comes to is an object if the outermost value is one. -/
theorem isRootObject_of_build {ts : List Token} (h : build stage stack ts = (d, false)) (hd : d.fault? = none)
    (hstart : stage = .value → stack ≠ []) : d.isObject = isRootObject stage stack := by
  induction ts generalizing stage stack with
  | nil =>
    obtain rfl : endFault stage stack = d := congrArg Prod.fst h
    obtain ⟨rfl, hstage⟩ := finished_of_endFault hd
    rw [hstage]
    rfl
  | cons t ts ih =>
    obtain ⟨-, stage', stack', hmove, hnext, hrest⟩ := next_of_build h hd
    rw [ih hrest hnext, (step_of_move hmove).isRootObject_eq hstart]

/-! ### Texts of objects -/

/-- A text without tokens is blank. -/
theorem blank_of_tokens {s : List Char} (h : tokens s = []) : ∀ c ∈ s, isBlank c = true := by
  induction s with
  | nil => exact List.forall_mem_nil _
  | cons c rest ih =>
    by_cases hblank : isBlank c = true
    · rw [tokens_blank hblank] at h
      exact List.forall_mem_cons.mpr ⟨hblank, ih h⟩
    · rw [tokens_cons (Bool.eq_false_iff.mpr hblank) rfl] at h
      cases h

/-- After the outermost value only white space comes, if the tree is finished. -/
theorem tokens_of_finished {v : Document} {s : List Char} (h : build (.after v) [] (tokens s) = (d, false)) :
    tokens s = [] := by
  cases htokens : tokens s with
  | nil => rfl
  | cons t ts =>
    rw [htokens] at h
    cases h

theorem tokens_blanks {before : List Char} (h : ∀ c ∈ before, isBlank c = true) (rest : List Char) :
    tokens (before ++ rest) = tokens rest := by
  induction before with
  | nil => rfl
  | cons c before ih =>
    obtain ⟨hc, hrest⟩ := List.forall_mem_cons.mp h
    rw [List.cons_append, tokens_blank hc, ih hrest]

theorem parse_eq_ok {s : String} {v : Json} :
    parse s = .ok v ↔ ∃ d, Json.read s.toList = (d, false) ∧ readAny .text d = .ok v := by
  unfold parse decode
  constructor
  · intro h
    obtain ⟨w, hw, h⟩ := bind_eq_ok.mp h
    split at h
    · cases h
    · rename_i hmore
      cases h
      exact ⟨_, Prod.ext rfl (Bool.eq_false_iff.mpr hmore), hw⟩
  · rintro ⟨d, hread, hv⟩
    simp only [hread]
    exact bind_eq_ok.mpr ⟨v, hv, rfl⟩

theorem checkStop_eq_ok {stop : Option Fault} (h : checkStop stop = .ok ()) : stop = none := by
  cases stop with
  | none => rfl
  | some f => cases h

/-- A value is read only from a tree without a fault, and is an object exactly if the tree is that of one. -/
theorem of_readAny {d : Document} (hsound : d.Sound) {v : Json} (h : readAny .text d = .ok v) :
    d.fault? = none ∧ (d.isObject = true ↔ ∃ es, v = .obj es) := by
  cases hsound with
  | null | bool =>
    cases h
    exact ⟨rfl, nofun, nofun⟩
  | number hnumber =>
    obtain ⟨-, hdepth⟩ := hnumber v (content_eq_ok h)
    refine ⟨rfl, nofun, ?_⟩
    rintro ⟨es, rfl⟩
    cases hdepth
  | string s =>
    obtain ⟨text, -, rfl⟩ := map_eq_ok.mp h
    exact ⟨rfl, nofun, nofun⟩
  | list _ stop =>
    obtain ⟨inner, -, h⟩ := bind_eq_ok.mp h
    obtain ⟨vs, -, h⟩ := bind_eq_ok.mp h
    obtain ⟨⟨⟩, hstop, h⟩ := bind_eq_ok.mp h
    cases h
    exact ⟨checkStop_eq_ok hstop, nofun, nofun⟩
  | object _ stop =>
    obtain ⟨inner, -, h⟩ := bind_eq_ok.mp h
    obtain ⟨es, -, h⟩ := bind_eq_ok.mp h
    obtain ⟨⟨⟩, hstop, h⟩ := bind_eq_ok.mp h
    cases h
    exact ⟨checkStop_eq_ok hstop, fun _ => ⟨_, rfl⟩, fun _ => rfl⟩
  | broken f => cases h

end Catalogue.Json
