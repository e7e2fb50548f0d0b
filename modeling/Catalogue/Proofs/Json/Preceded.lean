import Catalogue.Proofs.Json.Stretch

/-! Objects that something precedes. If anything but white space stands before the text of an object
whose first key begins with `q`, the whole can be read as no record (`decode_preceded`): what
precedes the object is no value of its own, since the object follows it; or it leaves a list or
object open, which nothing closes; or it leaves a string open, which the first quote of the object
closes, and then the key's first letter begins no token. With white space only, the object is read
as if it stood alone (`decode_blank`). -/
namespace Catalogue.Json

/-! ### Trees without a fault -/

theorem fault?_unwind {inner : Document} (fault : Fault) (stack : List Frame) (h : inner.fault? ≠ none) :
    (unwind fault inner stack).fault? ≠ none := by
  induction stack generalizing inner with
  | nil => exact h
  | cons frame stack ih => cases frame <;> exact ih (Option.some_ne_none _)

/-- What is true of where a move goes: on, at a token of the language and not back to the start, or to a tree,
which is that of a complete value or has a fault. -/
def Move.Sensible (t : Token) : Move → Prop
  | .next stage stack => ¬t.Faulty ∧ (stage = .value → stack ≠ [])
  | .stop tree complete => complete = false → tree.fault? ≠ none

theorem sensible_unwind (t : Token) {inner : Document} (fault : Fault) (stack : List Frame) (complete : Bool)
    (h : inner.fault? ≠ none) : (Move.stop (unwind fault inner stack) complete).Sensible t :=
  fun _ => fault?_unwind fault stack h

theorem sensible_startValue (missing : Fault) (stack : List Frame) (t : Token) :
    (startValue missing stack t).Sensible t := by
  cases t <;> first
    | exact sensible_unwind _ _ _ _ (Option.some_ne_none _)
    | exact ⟨id, nofun⟩

theorem sensible_startKey (missing : Fault) (entries : List (StringContent × Document)) (stack : List Frame)
    (t : Token) : (startKey missing entries stack t).Sensible t := by
  cases t <;> first
    | exact sensible_unwind _ _ _ _ (Option.some_ne_none _)
    | exact ⟨id, nofun⟩

theorem sensible_move (stage : Stage) (stack : List Frame) (t : Token) : (move stage stack t).Sensible t := by
  have hcut : ∀ fault fault' : Fault, ∀ done : List Document, ∀ below : List Frame,
      (Move.stop (unwind fault (.list done (some fault')) below) false).Sensible t := fun _ _ _ _ =>
    sensible_unwind _ _ _ _ (Option.some_ne_none _)
  have hcut' : ∀ fault fault' : Fault, ∀ done, ∀ below : List Frame,
      (Move.stop (unwind fault (.object done (some fault')) below) false).Sensible t := fun _ _ _ _ =>
    sensible_unwind _ _ _ _ (Option.some_ne_none _)
  cases stage with
  | value =>
    rcases stack with _ | ⟨items | ⟨entries, key⟩, below⟩
    · exact sensible_startValue _ _ t
    · cases t <;> first | exact hcut _ _ _ _ | exact sensible_startValue (.of .expectedValue) _ _
    · exact sensible_startValue _ _ t
  | firstItem => cases t <;> first | exact ⟨id, nofun⟩ | exact sensible_startValue (.of .expectedValue) _ _
  | after v =>
    rcases stack with _ | ⟨items | ⟨entries, key⟩, below⟩
    · exact nofun
    · cases t <;> first | exact hcut _ _ _ _ | exact ⟨id, nofun⟩
    · cases t <;> first | exact hcut' _ _ _ _ | exact ⟨id, nofun⟩
  | firstKey => cases t <;> first | exact ⟨id, nofun⟩ | exact sensible_startKey (.of .keyNotString) _ _ _
  | nextKey entries => cases t <;> first | exact hcut' _ _ _ _ | exact sensible_startKey (.of .keyNotString) _ _ _
  | colon entries key =>
    cases t <;> first
      | exact ⟨id, fun _ => List.cons_ne_nil _ _⟩
      | exact sensible_unwind _ _ _ _ (Option.some_ne_none _)

variable {stage : Stage} {stack : List Frame} {t : Token} {ts : List Token} {d : Document}

/-- On the way to a tree without a fault, every token is followed by a move. -/
theorem next_of_build (h : build stage stack (t :: ts) = (d, false)) (hd : d.fault? = none) :
    ¬t.Faulty ∧ ∃ stage' stack', move stage stack t = .next stage' stack' ∧ (stage' = .value → stack' ≠ []) ∧
      build stage' stack' ts = (d, false) := by
  have hmove := sensible_move stage stack t
  rw [build] at h
  cases hm : move stage stack t with
  | next stage' stack' =>
    rw [hm] at h hmove
    exact ⟨hmove.1, stage', stack', rfl, hmove.2, h⟩
  | stop tree complete =>
    rw [hm] at h hmove
    cases h
    exact absurd hd (hmove rfl)

/-- A tree without a fault is finished when the tokens are. -/
theorem nil_of_build {v : Document} (h : build (.after v) stack [] = (d, false)) (hd : d.fault? = none) :
    stack = [] := by
  cases stack with
  | nil => rfl
  | cons frame below =>
    refine absurd hd ?_
    obtain rfl : endFault (.after v) (frame :: below) = d := congrArg Prod.fst h
    cases frame <;> exact fault?_unwind _ _ (Option.some_ne_none _)

/-- A record is read only from trees without a fault. -/
theorem RecordShape.fault?_of_read {σ : Type} {shape : RecordShape σ} {n : Nat} {r : σ}
    (h : shape.read ⟨true, n⟩ d = .ok r) : d.fault? = none := by
  have hstop : ∀ {stop : Option Fault}, checkStop stop = .ok () → stop = none := by
    intro stop h
    cases stop with
    | none => rfl
    | some f => cases h
  unfold RecordShape.read at h
  split at h
  · obtain ⟨inner, -, h⟩ := bind_eq_ok.mp h
    obtain ⟨⟨seen, record⟩, -, h⟩ := bind_eq_ok.mp h
    obtain ⟨⟨⟩, hchecked, -⟩ := bind_eq_ok.mp h
    exact hstop hchecked
  · obtain ⟨inner, -, h⟩ := bind_eq_ok.mp h
    obtain ⟨⟨record, rest⟩, -, h⟩ := bind_eq_ok.mp h
    simp only at h
    split at h
    · obtain ⟨⟨⟩, hchecked, -⟩ := bind_eq_ok.mp h
      exact hstop hchecked
    · obtain ⟨⟨⟩, hchecked, -⟩ := bind_eq_ok.mp h
      simp only [checkRest, Bool.not_true, Bool.false_eq_true, if_false] at hchecked
      split at hchecked
      · cases hchecked
      split at hchecked
      · rfl
      · split at hchecked <;> cases hchecked
  · exact absurd h mismatch_ne_ok

/-! ### Tokens that begin before an object -/

/-- What a token leaves that begins before a brace and a quote: what stands after the quote, or the brace and the
quote too, with no more before them. -/
def Leaves (before after left : List Char) : Prop :=
  left = after ∨ ∃ before', left = before' ++ '\x7b' :: '"' :: after ∧ before'.length ≤ before.length

theorem Leaves.mono {before before' after left : List Char} (h : Leaves before after left)
    (hle : before.length ≤ before'.length) : Leaves before' after left :=
  h.imp_right fun ⟨rest, heq, hrest⟩ => ⟨rest, heq, hrest.trans hle⟩

theorem leaves_of_bland {w before after left : List Char} (hw : ∀ c ∈ w, Bland c)
    (h : before ++ '\x7b' :: '"' :: after = w ++ left) : Leaves before after left := by
  rcases List.append_eq_append_iff.mp h with ⟨more, rfl, hmore⟩ | ⟨more, rfl, rfl⟩
  · cases more with
    | nil => exact .inr ⟨[], hmore.symm, Nat.zero_le _⟩
    | cons c more =>
      obtain ⟨rfl, -⟩ := List.cons.inj hmore
      obtain ⟨-, hopen, -⟩ := hw _ (List.mem_append_right _ (List.mem_cons_self ..))
      exact absurd rfl hopen
  · exact .inr ⟨more, rfl, by rw [List.length_append]; exact Nat.le_add_left _ _⟩

/-- A quote ends a string. -/
theorem Strung.eq_of_quote {w after left : List Char} (hw : Strung w) (h : '"' :: after = w ++ left) : left = after := by
  cases hw with
  | close => exact (List.cons.inj h).2.symm
  | char hquote => exact absurd (List.cons.inj h).1.symm hquote
  | escape => exact absurd (List.cons.inj h).1 (by decide)

/-- A string ends at the quote after the brace, or before the brace. -/
theorem leaves_of_strung {w before after left : List Char} (hw : Strung w)
    (h : before ++ '\x7b' :: '"' :: after = w ++ left) : Leaves before after left := by
  induction hw generalizing before with
  | close =>
    cases before with
    | nil => exact absurd (List.cons.inj h).1 (by decide)
    | cons c before => exact .inr ⟨before, (List.cons.inj h).2.symm, Nat.le_succ _⟩
  | char _ _ hw ih =>
    cases before with
    | nil => exact .inl (hw.eq_of_quote (List.cons.inj h).2)
    | cons c before => exact (ih (List.cons.inj h).2).mono (Nat.le_succ _)
  | escape hw ih =>
    rcases before with _ | ⟨c, _ | ⟨d, before⟩⟩
    · exact absurd (List.cons.inj h).1 (by decide)
    · exact .inl (hw.eq_of_quote (List.cons.inj (List.cons.inj h).2).2)
    · exact (ih (List.cons.inj (List.cons.inj h).2).2).mono (by simp only [List.length_cons]; omega)

theorem leaves_of_scan {c : Char} {before after left : List Char}
    (h : scan c (before ++ '\x7b' :: '"' :: after) = (t, left)) (ht : ¬t.Faulty) : Leaves before after left := by
  obtain ⟨w, hw, hstretch, -⟩ := stretch_of_scan h ht
  cases hstretch with
  | openObject | closeObject => exact leaves_of_bland (List.forall_mem_nil _) hw
  | string _ hstrung => exact leaves_of_strung hstrung hw
  | bland _ _ hbland => exact leaves_of_bland (List.forall_mem_cons.mp hbland).2 hw

/-! ### The whole text -/

theorem tokens_blank {c : Char} (h : isBlank c = true) (rest : List Char) : tokens (c :: rest) = tokens rest := by
  simp only [tokens, List.length_cons, scanAll, h, if_true]

/-- The text of an object whose first key begins with `q`. -/
structure QObject (v : Json) (after : List Char) : Prop where
  writable : v.Writable
  text : compactChars v = '\x7b' :: '"' :: 'q' :: after

variable {v : Json} {after : List Char}

/-- From anywhere but the start, an object does not lead to a tree without a fault. -/
theorem fault?_build_object (hv : QObject v after) (hstart : stage = .value → stack ≠ [])
    (h : build stage stack (tokens (compactChars v)) = (d, false)) : d.fault? ≠ none := by
  intro hd
  have hawaits : ∃ stack' : List Frame, Awaits stage stack stack' ∧ stack' ≠ [] := by
    have htokens : tokens (compactChars v) = .openObject :: tokens ('"' :: 'q' :: after) := by
      rw [hv.text, tokens_openObject]
    rw [htokens] at h
    obtain ⟨-, stage', stack', hmove, -, -⟩ := next_of_build h hd
    cases stage with
    | value => exact ⟨stack, awaits_value stack, hstart rfl⟩
    | firstItem => exact ⟨_, awaits_firstItem stack, List.cons_ne_nil _ _⟩
    | after v => rcases stack with _ | ⟨_ | _, below⟩ <;> cases hmove
    | firstKey | nextKey entries | colon entries key => cases hmove
  obtain ⟨stack', hstage, hne⟩ := hawaits
  have hbuild := build_compactChars v hv.writable hstage delimited_nil
  rw [List.append_nil, tokens_nil] at hbuild
  exact hne (nil_of_build (hbuild.symm.trans h) hd)

/-- Where something else than white space precedes an object, the tree has a fault. -/
theorem fault?_build_preceded (hv : QObject v after) {before : List Char}
    (hstart : (stage = .value → stack ≠ []) ∨ ∃ c ∈ before, isBlank c = false)
    (h : build stage stack (tokens (before ++ compactChars v)) = (d, false)) : d.fault? ≠ none := by
  -- By induction on the number of characters before the object: a token takes some of them, and the machine
  -- does not come back to its start.
  induction hn : before.length using Nat.strong_induction_on generalizing before stage stack with
  | _ n ih =>
    cases before with
    | nil =>
      refine fault?_build_object hv (hstart.resolve_right ?_) h
      rintro ⟨c, hc, -⟩
      cases hc
    | cons c before =>
      subst hn
      rw [List.cons_append] at h
      by_cases hblank : isBlank c = true
      · rw [tokens_blank hblank] at h
        refine ih _ (Nat.lt_succ_self _) (hstart.imp_right ?_) h rfl
        rintro ⟨b, hb, hnonblank⟩
        rcases List.mem_cons.mp hb with rfl | hb
        · rw [hblank] at hnonblank
          cases hnonblank
        · exact ⟨b, hb, hnonblank⟩
      · intro hd
        cases hscan : scan c (before ++ compactChars v) with
        | mk t left =>
          rw [tokens_cons (Bool.eq_false_iff.mpr hblank) hscan] at h
          obtain ⟨ht, stage', stack', -, hnext, hrest⟩ := next_of_build h hd
          rw [hv.text] at hscan
          rcases leaves_of_scan hscan ht with rfl | ⟨before', rfl, hle⟩
          · -- A string took the brace and the quote: the letter begins no token.
            rw [tokens_cons (t := .stray) (r := []) rfl rfl] at hrest
            obtain ⟨hstray, -⟩ := next_of_build hrest hd
            exact hstray trivial
          · rw [← hv.text] at hrest
            exact ih _ (Nat.lt_succ_of_le hle) (.inl hnext) hrest rfl hd

/-- No record is read where something else than white space precedes an object. -/
theorem decode_preceded {σ : Type} {shape : RecordShape σ} (hv : QObject v after) {before : List Char}
    (hbefore : ∃ c ∈ before, isBlank c = false) (r : σ) :
    decode shape.read (String.ofList (before ++ compactChars v)) ≠ .ok r := by
  intro h
  obtain ⟨record, hread, h⟩ := bind_eq_ok.mp h
  rw [String.toList_ofList] at hread h
  split at h
  · cases h
  · rename_i hmore
    refine fault?_build_preceded hv (.inr hbefore) (Prod.ext rfl ?_) (RecordShape.fault?_of_read hread)
    simpa using hmore

/-- White space before a text changes nothing. -/
theorem decode_blank {α : Type} {r : Reader α} {before : List Char} (h : ∀ c ∈ before, isBlank c = true)
    (s : String) : decode r (String.ofList before ++ s) = decode r s := by
  have htokens : tokens (before ++ s.toList) = tokens s.toList := by
    induction before with
    | nil => rfl
    | cons c before ih =>
      obtain ⟨hc, hrest⟩ := List.forall_mem_cons.mp h
      rw [List.cons_append, tokens_blank hc, ih hrest]
  rw [decode, String.toList_append, String.toList_ofList, read, htokens]
  rfl

end Catalogue.Json
