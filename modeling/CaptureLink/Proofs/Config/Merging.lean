import CaptureLink.Proofs.Config.Layering

/-
  Layers of a configuration put together.  Each setting has
  its own rule for two layers, and every rule is associative
  and idempotent with the default of the setting as neutral.
  So it does not matter which of several layers are put
  together first.

  Main statements:
    * `Config.Setting.combine`
    * `Config.get_merge`
    * `Config.Grouping`
    * `Config.merge_grouped`
-/

namespace CaptureLink

namespace Config

------------------------------------------------------------
-- The rules
------------------------------------------------------------

/- A rule for layers, in which the default says nothing. -/
structure Layers
    {α : Type}
    (default : α)
    (rule : α → α → α) : Prop where
  assoc : ∀ a b c, rule (rule a b) c = rule a (rule b c)
  default_left : ∀ a, rule default a = a
  default_right : ∀ a, rule a default = a
  self : ∀ a, rule a a = a

/- The second value unless it is the default is such a rule. -/
theorem layers_pick
    {α : Type}
    [DecidableEq α]
    (default : α) : Layers default (pick default) where
  assoc := by
    intro a b c
    by_cases hDefault : c = default
    · rw [hDefault, pick_default, pick_default]
    · rw [pick_of_ne _ hDefault, pick_of_ne _ hDefault,
        pick_of_ne _ hDefault]
  default_left := by
    intro a
    by_cases hDefault : a = default
    · rw [hDefault, pick_default]
    · exact pick_of_ne _ hDefault
  default_right := pick_default default
  self := by
    intro a
    exact ite_self a

/- What one layer or the other turns on is another. -/
theorem layers_or : Layers false Bool.or where
  assoc := Bool.or_assoc
  default_left := Bool.false_or
  default_right := Bool.or_false
  self := Bool.or_self

/- So are the features of both. -/
theorem layers_features :
    Layers (0 : UInt32) fun a b => a ||| b where
  assoc := UInt32.or_assoc
  default_left := fun _ => UInt32.zero_or
  default_right := fun _ => UInt32.or_zero
  self := fun _ => UInt32.or_self

------------------------------------------------------------
-- Setting by setting
------------------------------------------------------------

/- What a setting is in two layers together. -/
def Setting.combine :
    (setting : Setting) →
    setting.Choice → setting.Choice → setting.Choice
| .host => pick (standard.get .host)
| .port => pick (standard.get .port)
| .policy => pick (standard.get .policy)
| .initiate => Bool.or
| .maxFrameSize => pick (standard.get .maxFrameSize)
| .ackTimeoutSecs => pick (standard.get .ackTimeoutSecs)
| .ackPollIntervalMs => pick (standard.get .ackPollIntervalMs)
| .apiVersion => pick (standard.get .apiVersion)
| .features => fun a b => a ||| b
| .cameras => pick (standard.get .cameras)

/- Every setting has a rule for layers, with its own default. -/
theorem Setting.layers_combine (setting : Setting) :
    Layers (standard.get setting) setting.combine := by
  cases setting with
  | initiate => exact layers_or
  | features => exact layers_features
  | _ => exact layers_pick _

/- A setting of two layers is that setting of both, combined. -/
theorem get_merge
    (a b : Config)
    (setting : Setting) :
    (a.merge b).get setting =
      setting.combine (a.get setting) (b.get setting) := by
  cases setting with
  | _ => rfl

/- Layers of configurations follow a rule for layers. -/
theorem layers_merge : Layers standard merge where
  assoc := by
    intro a b c
    apply eq_of_get
    intro setting
    simp only [get_merge, setting.layers_combine.assoc]
  default_left := by
    intro a
    apply eq_of_get
    intro setting
    rw [get_merge, setting.layers_combine.default_left]
  default_right := by
    intro a
    apply eq_of_get
    intro setting
    rw [get_merge, setting.layers_combine.default_right]
  self := by
    intro a
    apply eq_of_get
    intro setting
    rw [get_merge, setting.layers_combine.self]

------------------------------------------------------------
-- Any number of layers
------------------------------------------------------------

/- Layers put together two at a time, in some grouping. -/
inductive Grouping where
| nothing
| layer (c : Config)
| both (first second : Grouping)

namespace Grouping

/- The layers in their order. -/
def layers : Grouping → List Config
| nothing => []
| layer c => [c]
| both first second => first.layers ++ second.layers

/- What the grouping makes of them. -/
def merged : Grouping → Config
| nothing => standard
| layer c => c
| both first second => first.merged.merge second.merged

end Grouping

/- One layer after the other over a first one. -/
theorem foldl_merge
    (first : Config)
    (layers : List Config) :
    layers.foldl merge first =
      first.merge (layers.foldl merge standard) := by
  have hAssoc : Std.Associative merge := ⟨layers_merge.assoc⟩
  have hFold :
      layers.foldl merge (first.merge standard) =
        first.merge (layers.foldl merge standard) :=
    List.foldl_assoc
  rwa [layers_merge.default_right] at hFold

/- A grouping makes the same as one layer after the other. -/
theorem Grouping.merged_eq (g : Grouping) :
    g.merged = g.layers.foldl merge standard := by
  induction g with
  | nothing => rfl
  | layer c => exact (layers_merge.default_left c).symm
  | both first second ihFirst ihSecond =>
      calc first.merged.merge second.merged
          = (first.layers.foldl merge standard).merge
              (second.layers.foldl merge standard) := by
            rw [ihFirst, ihSecond]
        _ = second.layers.foldl merge
              (first.layers.foldl merge standard) :=
            (foldl_merge _ _).symm
        _ = (first.layers ++ second.layers).foldl merge
              standard :=
            List.foldl_append.symm

/-
  Putting layers together is associative and idempotent, and
  the defaults are neutral.  So two groupings of the same
  layers make the same configuration.
-/
theorem merge_grouped :
    (∀ a b c : Config,
      (a.merge b).merge c = a.merge (b.merge c)) ∧
      (∀ a : Config,
        standard.merge a = a ∧
          a.merge standard = a ∧ a.merge a = a) ∧
        ∀ g : Grouping,
          g.merged = g.layers.foldl merge standard :=
  ⟨layers_merge.assoc,
    fun a =>
      ⟨layers_merge.default_left a, layers_merge.default_right a,
        layers_merge.self a⟩,
    Grouping.merged_eq⟩

end Config

end CaptureLink
