import Catalogue.Cache.Basic
import Catalogue.Proofs.Json.Line
import Catalogue.Proofs.Plan.Codec
import Catalogue.Proofs.Text.Utf8
import Catalogue.Proofs.Time.Timestamp

/-! Entries of the compile cache and their lines. An entry whose plan is sound and whose
time there is, is read back from its line (`ofLine?_line`), and its line holds no line
end but the one that closes it (`printable_line`). -/
namespace Catalogue.CacheEntry

open Json Text.Utf8

/-- An entry with a sound plan, nested less deep than a text may be, and a point in time that there is. -/
structure Sound (e : CacheEntry) : Prop where
  version : Number.nat32.holds e.plan.version
  plan : e.plan.Sound
  depth : e.plan.toJson.depth < 127
  timestamp : e.timestamp.Valid

/-! ### One field at a time -/

theorem readField_plan {e : CacheEntry} (h : e.Sound) (r : CacheEntry) :
    readField r "plan" ⟨true, 127⟩ (toDocument e.plan.toJson) = .ok { r with plan := e.plan } :=
  bind_eq_ok.mpr ⟨_, Plan.read_toJson h.version h.plan (by decide) h.depth, rfl⟩

theorem readField_timestamp {e : CacheEntry} (h : e.Sound) (r : CacheEntry) (src : Source) :
    readField r "timestamp" src (toDocument (.str (e.timestamp.text "Z"))) =
      .ok { r with timestamp := e.timestamp } := by
  refine bind_eq_ok.mpr ⟨e.timestamp.text "Z", rfl, ?_⟩
  rw [Timestamp.parse?_text h.timestamp]
  rfl

/-! ### Lines -/

/-- A sound entry is read back from its JSON. -/
theorem read_toJson {e : CacheEntry} (h : e.Sound) : shape.read .text (toDocument e.toJson) = .ok e := by
  refine RecordShape.read_object (by decide) ["timestamp", "model", "plan", "query_text"]
    ((RecordShape.readObject_cons rfl rfl rfl).trans ?_) rfl
  refine (RecordShape.readObject_cons rfl rfl (readField_plan h _)).trans ?_
  refine (RecordShape.readObject_cons rfl rfl rfl).trans ?_
  exact RecordShape.readObject_cons rfl rfl (readField_timestamp h _ _)

theorem writable_toJson {e : CacheEntry} (h : e.Sound) : e.toJson.Writable := by
  refine .obj ?_
  simp only [List.forall_mem_cons]
  exact ⟨.str _, Plan.writable_toJson h.version h.plan, .str _, .str _, List.forall_mem_nil _⟩

/-- A sound entry is read back from its line. -/
theorem ofLine?_line {e : CacheEntry} (h : e.Sound) : ofLine? (encode e.toJson.compact) = some e := by
  have hdecode : Json.decode shape.read e.toJson.compact = .ok e := by
    unfold Json.decode
    rw [read_compact (writable_toJson h)]
    exact bind_eq_ok.mpr ⟨e, read_toJson h, rfl⟩
  simp only [ofLine?, text?_encode, bind, Option.bind, hdecode]
  rfl

/-- The line of an entry holds no control character before its end. -/
theorem printable_line {e : CacheEntry} {b : UInt8} (h : b ∈ encode e.toJson.compact) : 32 ≤ b.toNat := by
  by_contra hlt
  have hchar := printable_compact e.toJson _ (mem_of_mem_encode h (by omega))
  rcases Text.toNat_ofNat b.toNat with hcode | hcode <;> omega

end Catalogue.CacheEntry
