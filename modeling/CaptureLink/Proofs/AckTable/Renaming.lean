import CaptureLink.AckTable
import Mathlib.Data.List.Nodup
import Mathlib.Logic.Embedding.Basic

/-
  A table of acknowledgments under other names.  If different
  messages keep different names, a table does the same as
  before, and tells the same, under the new ones.

  Main declarations:
    * `AckTable.renamed`
    * `AckTable.acknowledge_renamed`
    * `AckTable.expire_renamed`
    * `AckTable.expect_renamed`
-/

namespace CaptureLink

variable {κ : Type}

/- The record of a message that has another name. -/
def AckRecord.renamed
    (ρ : String ↪ String)
    (r : AckRecord κ) : AckRecord κ :=
  { r with id := ρ r.id }

namespace AckTable

/- The same messages under other names. -/
def renamed
    (ρ : String ↪ String)
    (t : AckTable κ) : AckTable κ where
  records := t.records.map (·.renamed ρ)
  nodup := by
    have hIds :
        (t.records.map (·.renamed ρ)).map AckRecord.id =
          (t.records.map AckRecord.id).map ρ := by
      rw [List.map_map, List.map_map]
      rfl
    rw [hIds]
    exact List.Nodup.map ρ.injective t.nodup

/- A table is its records. -/
theorem eq_of_records_eq
    {t t' : AckTable κ}
    (hRecords : t.records = t'.records) : t = t' := by
  cases t
  cases t'
  cases hRecords
  rfl

section Renaming

variable (ρ : String ↪ String)
variable (t : AckTable κ)

/- As many messages wait as before. -/
@[simp] theorem size_renamed : (t.renamed ρ).size = t.size :=
  List.length_map _

/- A test that does not mind the names lets the same records pass. -/
theorem filter_renamed
    {keep keep' : AckRecord κ → Bool}
    (hKeep : ∀ r, keep' (r.renamed ρ) = keep r) :
    (t.renamed ρ).filter keep' = (t.filter keep).renamed ρ := by
  apply eq_of_records_eq
  simp only [renamed, filter, List.filter_map]
  congr 2
  funext r
  exact hKeep r

/- The message with the new name is left out. -/
theorem erase_renamed (id : String) :
    (t.renamed ρ).erase (ρ id) = (t.erase id).renamed ρ := by
  apply filter_renamed
  intro r
  simp [AckRecord.renamed]

/- The record of a message is found under its new name. -/
theorem find?_renamed (id : String) :
    (t.renamed ρ).find? (ρ id) =
      (t.find? id).map (·.renamed ρ) := by
  simp only [find?, renamed, List.find?_map]
  congr 2
  funext r
  simp [AckRecord.renamed]

/- A message is acknowledged under its new name. -/
theorem acknowledge_renamed (id : String) :
    (t.renamed ρ).acknowledge (ρ id) =
      ((t.acknowledge id).1.renamed ρ, (t.acknowledge id).2) := by
  unfold acknowledge
  rw [find?_renamed]
  cases t.find? id with
  | none => rfl
  | some r =>
      simp only [Option.map_some, erase_renamed]
      rfl

/- The same messages are given up. -/
theorem expire_renamed (now : Nat) :
    (t.renamed ρ).expire now =
      ((t.expire now).1.renamed ρ, (t.expire now).2) := by
  have hKept :
      (t.renamed ρ).filter (!·.due now) =
        (t.filter (!·.due now)).renamed ρ :=
    filter_renamed ρ t fun _ => rfl
  have hLate :
      (t.renamed ρ).records.filter (·.due now) =
        (t.records.filter (·.due now)).map (·.renamed ρ) :=
    List.filter_map
  simp only [expire, hKept, hLate, List.filterMap_map,
    List.length_map]
  rfl

/- A new message waits under its new name. -/
theorem expect_renamed (r : AckRecord κ) :
    (t.renamed ρ).expect (r.renamed ρ) =
      (t.expect r).renamed ρ := by
  have hErased :
      (t.renamed ρ).erase (r.renamed ρ).id =
        (t.erase r.id).renamed ρ :=
    erase_renamed ρ t r.id
  apply eq_of_records_eq
  simp only [expect, hErased]
  simp only [renamed, List.map_append, List.map_singleton]

end Renaming

end AckTable

end CaptureLink
