import Catalogue.Model.Exchange
import Catalogue.Proofs.Text.Case

/-! The text of an answer. A reply holds it in pieces, which vendors spread over blocks, and one of
them over messages too, among items of other kinds and items that cannot be read. Whatever
the vendor and however they are spread, the answer is the pieces with line feeds between them, trimmed
(`answer?_pieces`). -/
namespace Catalogue

/-! ### Parts of JSON -/

namespace Json

theorem str?_eq_some {v : Json} {s : String} : v.str? = some s ↔ v = .str s := by
  cases v <;> simp [str?]

theorem arr?_eq_some {v : Json} {items : List Json} : v.arr? = some items ↔ v = .arr items := by
  cases v <;> simp [arr?]

theorem bind_str?_eq_some {o : Option Json} {s : String} : o.bind str? = some s ↔ o = some (.str s) := by
  simp [Option.bind_eq_some_iff, str?_eq_some]

theorem bind_arr?_eq_some {o : Option Json} {items : List Json} : o.bind arr? = some items ↔ o = some (.arr items) := by
  simp [Option.bind_eq_some_iff, arr?_eq_some]

end Json

/-- A line feed before a text is trimmed. -/
theorem Text.trim_lineFeed_append (s : String) : trim ("\n" ++ s) = trim s := by
  simp only [trim, String.toList_append]
  rfl

namespace Model

theorem hasType_iff {type : String} {v : Json} : hasType type v = true ↔ v.get? "type" = some (.str type) := by
  rw [hasType, beq_iff_eq, Json.bind_str?_eq_some]

/-! ### Pieces of text -/

/-- Whether the items of a list carry texts: each carries some of them in turn, but for items that
carry nothing, which may stand anywhere. -/
inductive Spread (Carries : Json → List String → Prop) : List Json → List String → Prop where
  | nil : Spread Carries [] []
  | item {v : Json} {rest : List Json} {ss ts : List String} (hv : Carries v ss) (hrest : Spread Carries rest ts) :
      Spread Carries (v :: rest) (ss ++ ts)
  | noise {v : Json} {rest : List Json} {ts : List String} (hv : ∀ ss, ¬Carries v ss)
      (hrest : Spread Carries rest ts) : Spread Carries (v :: rest) ts

/-- A block of a type carries its text. -/
inductive Block (type : String) : Json → List String → Prop where
  | mk {v : Json} {s : String} (htype : v.get? "type" = some (.str type)) (htext : v.get? "text" = some (.str s)) :
      Block type v [s]

/-- A message carries the texts of its blocks. -/
inductive Message : Json → List String → Prop where
  | mk {v : Json} {parts : List Json} {ss : List String} (htype : v.get? "type" = some (.str "message"))
      (hcontent : v.get? "content" = some (.arr parts)) (hparts : Spread (Block "output_text") parts ss) :
      Message v ss

/-- The key of the list that a vendor's replies hold their answers in. -/
def Vendor.listKey : Vendor → String
  | openai => "output"
  | anthropic => "content"

/-- What the items of that list carry. -/
def Vendor.Item : Vendor → Json → List String → Prop
  | openai => Message
  | anthropic => Block "text"

/-- Whether a vendor's reply carries texts. One without a list carries none. -/
inductive Carries (v : Vendor) : Json → List String → Prop where
  | listed {reply : Json} {items : List Json} {ss : List String} (hlist : reply.get? v.listKey = some (.arr items))
      (hitems : Spread v.Item items ss) : Carries v reply ss
  | unlisted {reply : Json} (hlist : ∀ items, reply.get? v.listKey ≠ some (.arr items)) : Carries v reply []

/-! ### Reading -/

/-- What reads lists item by item, without what carries nothing, reads what they carry. -/
theorem spread_iff {P : Json → List String → Prop} {read : List Json → List String} (hnil : read [] = [])
    (hitem : ∀ v rest ss, P v ss → read (v :: rest) = ss ++ read rest)
    (hnoise : ∀ v rest, (∀ ss, ¬P v ss) → read (v :: rest) = read rest) {items : List Json} {ss : List String} :
    Spread P items ss ↔ ss = read items := by
  constructor
  · intro h
    induction h with
    | nil => exact hnil.symm
    | item hv _ ih => rw [hitem _ _ _ hv, ih]
    | noise hv _ ih => rw [hnoise _ _ hv, ih]
  · rintro rfl
    induction items with
    | nil => exact hnil ▸ .nil
    | cons v rest ih =>
      by_cases hv : ∃ ss, P v ss
      · obtain ⟨ss, hv⟩ := hv
        rw [hitem v rest ss hv]
        exact .item hv ih
      · have hv := not_exists.mp hv
        rw [hnoise v rest hv]
        exact .noise hv ih

theorem spread_block_iff {type : String} {items : List Json} {ss : List String} :
    Spread (Block type) items ss ↔ ss = textsOfType type items := by
  refine spread_iff rfl ?item ?noise
  case item =>
    rintro v rest _ ⟨htype, htext⟩
    simp [textsOfType, hasType_iff.mpr htype, htext, Json.str?]
  case noise =>
    intro v rest hv
    by_cases htype : hasType type v = true
    · have htext : (v.get? "text").bind Json.str? = none := by
        refine Option.eq_none_iff_forall_ne_some.mpr fun s hs => hv [s] ?_
        exact ⟨hasType_iff.mp htype, Json.bind_str?_eq_some.mp hs⟩
      simp [textsOfType, htype, htext]
    · simp [textsOfType, htype]

/-- The texts of the messages in a list. -/
def messageTexts (items : List Json) : List String :=
  (items.filter (hasType "message")).flatMap fun item =>
    textsOfType "output_text" (((item.get? "content").bind Json.arr?).getD [])

theorem spread_message_iff {items : List Json} {ss : List String} :
    Spread Message items ss ↔ ss = messageTexts items := by
  refine spread_iff rfl ?item ?noise
  case item =>
    rintro v rest _ ⟨htype, hcontent, hparts⟩
    simp [messageTexts, hasType_iff.mpr htype, hcontent, Json.arr?, spread_block_iff.mp hparts]
  case noise =>
    intro v rest hv
    by_cases htype : hasType "message" v = true
    · have hcontent : (v.get? "content").bind Json.arr? = none := by
        refine Option.eq_none_iff_forall_ne_some.mpr fun parts hparts => hv (textsOfType "output_text" parts) ?_
        exact ⟨hasType_iff.mp htype, Json.bind_arr?_eq_some.mp hparts, spread_block_iff.mpr rfl⟩
      simp [messageTexts, htype, hcontent, textsOfType]
    · simp [messageTexts, htype]

/-- The texts of a vendor's list. -/
def Vendor.texts : Vendor → List Json → List String
  | openai => messageTexts
  | anthropic => textsOfType "text"

theorem Vendor.spread_item_iff {v : Vendor} {items : List Json} {ss : List String} :
    Spread v.Item items ss ↔ ss = v.texts items := by
  cases v with
  | openai => exact spread_message_iff
  | anthropic => exact spread_block_iff

/-- The list that a vendor's reply holds its answer in. -/
def Vendor.list? (v : Vendor) (reply : Json) : Option (List Json) := (reply.get? v.listKey).bind Json.arr?

/-- A reply carries the texts of its list, and no others. -/
theorem carries_iff {v : Vendor} {reply : Json} {ss : List String} :
    Carries v reply ss ↔ ss = (v.list? reply).elim [] v.texts := by
  constructor
  · rintro (⟨hlist, hitems⟩ | hlist)
    · rw [Vendor.list?, Json.bind_arr?_eq_some.mpr hlist]
      exact Vendor.spread_item_iff.mp hitems
    · have hnone : v.list? reply = none :=
        Option.eq_none_iff_forall_ne_some.mpr fun items hitems => hlist items (Json.bind_arr?_eq_some.mp hitems)
      rw [hnone]
      rfl
  · rintro rfl
    cases hlist : v.list? reply with
    | none =>
      refine .unlisted fun items hitems => ?_
      rw [Vendor.list?, Json.bind_arr?_eq_some.mpr hitems] at hlist
      cases hlist
    | some items => exact .listed (Json.bind_arr?_eq_some.mp hlist) (Vendor.spread_item_iff.mpr rfl)

theorem answer?_eq (v : Vendor) (reply : Json) :
    answer? v reply = (v.list? reply).bind fun items => answerText? (v.texts items) := by
  cases v <;> exact (Option.bind_assoc ..).symm

/-! ### Joining -/

/-- After a text that is not empty, texts are joined as they are anywhere. -/
theorem foldl_joined {done : String} (h : done ≠ "") (ss : List String) :
    ss.foldl (fun done s => if done.isEmpty then s else done ++ "\n" ++ s) done = "\n".intercalate (done :: ss) := by
  induction ss generalizing done with
  | nil => rw [List.foldl_nil, String.intercalate_singleton]
  | cons s ss ih =>
    have hne : done ++ "\n" ++ s ≠ "" := by simp
    rw [List.foldl_cons, if_neg (by simpa using h), ih hne, String.intercalate_cons_append,
      String.intercalate_cons_cons]

theorem joinTexts_cons_of_ne {s : String} (h : s ≠ "") (ss : List String) :
    joinTexts (s :: ss) = "\n".intercalate (s :: ss) := foldl_joined h ss

/-- Only line feeds at the start are missing from joined texts, and they are trimmed. -/
theorem trim_joinTexts (ss : List String) : Text.trim (joinTexts ss) = Text.trim ("\n".intercalate ss) := by
  induction ss with
  | nil => rfl
  | cons s ss ih =>
    by_cases hs : s = ""
    · subst hs
      rw [show joinTexts ("" :: ss) = joinTexts ss from rfl, ih]
      cases ss with
      | nil => rfl
      | cons t ss => rw [String.intercalate_cons_cons, String.empty_append, Text.trim_lineFeed_append]
    · rw [joinTexts_cons_of_ne hs]

theorem answerText?_eq (ss : List String) :
    answerText? ss = if Text.trim ("\n".intercalate ss) = "" then none else some (Text.trim ("\n".intercalate ss)) := by
  rw [← trim_joinTexts]
  simp only [answerText?, Text.trim_eq_empty]

/-- The answer in a reply is what it carries, with line feeds between, trimmed. -/
theorem answer?_of_carries {v : Vendor} {reply : Json} {ss : List String} (h : Carries v reply ss) :
    answer? v reply =
      if Text.trim ("\n".intercalate ss) = "" then none else some (Text.trim ("\n".intercalate ss)) := by
  rw [answer?_eq, carries_iff.mp h, ← answerText?_eq]
  cases v.list? reply <;> rfl

/-- Every reply carries texts in one way, and whichever vendor's reply carries them, the answer is the texts
with line feeds between, trimmed, if anything is left of them. -/
theorem answer?_pieces :
    (∀ v reply, ∃! ss, Carries v reply ss) ∧
    (∀ v reply ss, Carries v reply ss →
      answer? v reply =
        if Text.trim ("\n".intercalate ss) = "" then none else some (Text.trim ("\n".intercalate ss))) ∧
    ∀ reply reply' ss, Carries .anthropic reply ss → Carries .openai reply' ss →
      answer? .anthropic reply = answer? .openai reply' := by
  refine ⟨fun v reply => ⟨_, carries_iff.mpr rfl, fun ss h => carries_iff.mp h⟩,
    fun v reply ss h => answer?_of_carries h, fun reply reply' ss h h' => ?_⟩
  rw [answer?_of_carries h, answer?_of_carries h']

/-- An empty text, one that is missing, a block without a type, a message without content, one whose content is
no list, and what is no message make no difference. -/
theorem answer?_pieces_noisy :
    let block (type s : String) : Json := .obj [("text", .str s), ("type", .str type)]
    let message (content : Json) : Json := .obj [("content", content), ("type", .str "message")]
    let blocks : Json := .obj [("content", .arr [block "text" "", .null, block "thinking" "x", block "text" "a ",
      .obj [("text", .int 1), ("type", .str "text")], block "text" "", block "text" "b\n"])]
    let messages : Json := .obj [("output", .arr [message (.arr [block "output_text" ""]),
      .obj [("type", .str "reasoning")], message (.arr [block "output_text" "a ", block "text" "x"]), message .null,
      .obj [("content", .arr [block "output_text" "x"])],
      message (.arr [.obj [("text", .str "x")], block "output_text" "", block "output_text" "b\n"])])]
    Carries .anthropic blocks ["", "a ", "", "b\n"] ∧ Carries .openai messages ["", "a ", "", "b\n"] ∧
      answer? .anthropic blocks = answer? .openai messages ∧ answer? .openai messages = some "a \n\nb" := by
  intro block message blocks messages
  obtain ⟨-, hanswer, hsame⟩ := answer?_pieces
  have hblocks : Carries .anthropic blocks ["", "a ", "", "b\n"] := carries_iff.mpr (by decide +kernel)
  have hmessages : Carries .openai messages ["", "a ", "", "b\n"] := carries_iff.mpr (by decide +kernel)
  refine ⟨hblocks, hmessages, hsame _ _ _ hblocks hmessages, (hanswer _ _ _ hmessages).trans ?_⟩
  decide +kernel

/-- A successful reply gives the answer that it carries, or the error of a reply without an answer. -/
theorem readReply_of_carries {v : Vendor} {r : Web.Reply} {reply : Json} {ss : List String}
    (hsucceeded : r.succeeded = true) (hjson : replyJson v r = .ok reply) (h : Carries v reply ss) :
    readReply v r =
      if Text.trim ("\n".intercalate ss) = "" then .error (noAnswer v)
      else .ok (Text.trim ("\n".intercalate ss)) := by
  have hanswer := answer?_of_carries h
  have hread : readReply v r = (answer? v reply).elim (.error (noAnswer v)) .ok := by
    simp only [readReply, hsucceeded, hjson, Bool.not_true, Bool.false_eq_true, if_false, bind, Except.bind]
    cases answer? v reply <;> rfl
  rw [hread, hanswer]
  split <;> rfl

end Model
end Catalogue
