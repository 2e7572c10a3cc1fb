import Mathlib.Data.List.Perm.Basic
import LeafHub.Config.Document
import LeafHub.Proofs.Text.JsonForm

namespace LeafHub.Config

/-- What an encoding says the fields are. -/
structure Fields where
  registryLockMs : Nat
  valueLockMs : Nat
  nameBase : String
  settingsNamespace : String
  stringWriteMax : Nat
  workerStackKb : Nat
  workerPriority : Nat

/-- The numbers fit the widths of the fields, and the texts their capacities in bytes. -/
structure Fields.InRange (fields : Fields) : Prop where
  registryLockMs : fields.registryLockMs < 2 ^ 32
  valueLockMs : fields.valueLockMs < 2 ^ 32
  nameBase : fields.nameBase.utf8ByteSize ≤ 12
  settingsNamespace : fields.settingsNamespace.utf8ByteSize ≤ 15
  stringWriteMax : fields.stringWriteMax < 2 ^ 16
  workerStackKb : fields.workerStackKb < 2 ^ 16
  workerPriority : fields.workerPriority < 2 ^ 8

def fields (config : Config) : Fields where
  registryLockMs := config.registryLockMs.toNat
  valueLockMs := config.valueLockMs.toNat
  nameBase := config.nameBase.text
  settingsNamespace := config.settingsNamespace.text
  stringWriteMax := config.stringWriteMax.toNat
  workerStackKb := config.workerStackKb.toNat
  workerPriority := config.workerPriority.toNat

theorem inRange_fields (config : Config) : config.fields.InRange where
  registryLockMs := config.registryLockMs.toNat_lt
  valueLockMs := config.valueLockMs.toNat_lt
  nameBase := config.nameBase.fits
  settingsNamespace := config.settingsNamespace.fits
  stringWriteMax := config.stringWriteMax.toNat_lt
  workerStackKb := config.workerStackKb.toNat_lt
  workerPriority := config.workerPriority.toNat_lt

/-- The values of the fields in their order. -/
def Fields.values (fields : Fields) : List Json :=
  [.natural fields.registryLockMs, .natural fields.valueLockMs, .string (some fields.nameBase),
    .string (some fields.settingsNamespace), .natural fields.stringWriteMax, .natural fields.workerStackKb,
    .natural fields.workerPriority]

theorem number?_eq_some_iff {limit n : Nat} {json : Json} : number? limit json = some n ↔ json = .natural n ∧ n < limit := by
  constructor
  · intro read
    unfold number? at read
    split at read
    · split at read
      · rename_i small
        cases read
        exact ⟨rfl, small⟩
      · cases read
    · cases read
  · rintro ⟨rfl, small⟩
    exact if_pos small

theorem text?_eq_some_iff {limit : Nat} {text : Bounded limit} {json : Json} :
    text? limit json = some text ↔ json = .string (some text.text) := by
  constructor
  · intro read
    unfold text? at read
    split at read
    · rw [Bounded.of?_eq_some_iff.mp read]
    · cases read
  · rintro rfl
    exact Bounded.of?_text text

/-- Seven values are accepted when they are the values of fields in their ranges. -/
theorem ofValues?_eq_some_iff {values : List Json} {config : Config} :
    ofValues? values = some config ↔
      ∃ fields : Fields, values = fields.values ∧ fields.InRange ∧ config.fields = fields := by
  constructor
  · intro read
    unfold ofValues? at read
    split at read
    · simp only [Option.bind_eq_bind, Option.bind_eq_some_iff, number?_eq_some_iff, text?_eq_some_iff] at read
      obtain ⟨registryLock, ⟨rfl, room₁⟩, valueLock, ⟨rfl, room₂⟩, nameBase, rfl, settingsNamespace, rfl, stringWriteMax,
        ⟨rfl, room₃⟩, workerStack, ⟨rfl, room₄⟩, workerPriority, ⟨rfl, room₅⟩, same⟩ := read
      cases same
      refine ⟨⟨registryLock, valueLock, nameBase.text, settingsNamespace.text, stringWriteMax, workerStack, workerPriority⟩,
        rfl, ⟨room₁, room₂, nameBase.fits, settingsNamespace.fits, room₃, room₄, room₅⟩, ?_⟩
      simp only [Config.fields, UInt32.toNat_ofNat_of_lt' room₁, UInt32.toNat_ofNat_of_lt' room₂,
        UInt16.toNat_ofNat_of_lt' room₃, UInt16.toNat_ofNat_of_lt' room₄, UInt8.toNat_ofNat_of_lt' room₅]
    · cases read
  · rintro ⟨_, rfl, -, rfl⟩
    simp only [ofValues?, Fields.values, Config.fields, number?, text?, Bounded.of?_text,
      if_pos config.registryLockMs.toNat_lt, if_pos config.valueLockMs.toNat_lt, if_pos config.stringWriteMax.toNat_lt,
      if_pos config.workerStackKb.toNat_lt, if_pos config.workerPriority.toNat_lt, Option.bind_eq_bind, Option.bind_some,
      UInt32.ofNat_toNat, UInt16.ofNat_toNat, UInt8.ofNat_toNat]

/-- The document describes the fields: it lists their values in order, or names each of them once. -/
inductive Describes : Json → Fields → Prop
  | array {fields : Fields} : Describes (.array fields.values) fields
  | object {members : List (Option String × Json)} {fields : Fields} :
    (∀ member ∈ members, member.1.isSome) →
    List.Forall₂ (fun name value => (members.filter fun member => member.1 = some name) = [(some name, value)])
      memberNames fields.values →
    Describes (.object members) fields

theorem member?_eq_some_iff {members : List (Option String × Json)} {name : String} {value : Json} :
    member? members name = some value ↔ (members.filter fun member => member.1 = some name) = [(some name, value)] := by
  constructor
  · intro read
    unfold member? at read
    split at read
    · rename_i member only
      have kept : member ∈ members.filter fun member => member.1 = some name := by simp [only]
      have named : member.1 = some name := by simpa using (List.mem_filter.mp kept).2
      have held : member.2 = value := Option.some.inj read
      rw [only, ← named, ← held]
    · cases read
  · intro only
    rw [member?, only]

/-- All values of a list are found one by one. -/
theorem mapM_eq_some_iff {α β : Type} {f : α → Option β} {xs : List α} {ys : List β} :
    xs.mapM f = some ys ↔ List.Forall₂ (fun x y => f x = some y) xs ys := by
  induction xs generalizing ys with
  | nil =>
    rw [List.mapM_nil, List.forall₂_nil_left_iff]
    exact ⟨fun same => (Option.some.inj same).symm, fun same => by rw [same]; rfl⟩
  | cons x xs ih =>
    simp only [List.mapM_cons, Option.bind_eq_bind, Option.pure_def, Option.bind_eq_some_iff, ih, Option.some.injEq,
      List.forall₂_cons_left_iff]
    constructor
    · rintro ⟨y, first, ys, others, same⟩
      exact ⟨y, ys, first, others, same.symm⟩
    · rintro ⟨y, ys, first, others, same⟩
      exact ⟨y, first, ys, others, same.symm⟩

/-- A document is accepted when it describes fields in their ranges, and it is read as the configuration with these fields. -/
theorem ofJson?_eq_some_iff {json : Json} {config : Config} :
    ofJson? json = some config ↔ ∃ fields, Describes json fields ∧ fields.InRange ∧ config.fields = fields := by
  constructor
  · intro read
    unfold ofJson? at read
    split at read
    · obtain ⟨fields, rfl, bounds, same⟩ := ofValues?_eq_some_iff.mp read
      exact ⟨fields, .array, bounds, same⟩
    · rename_i members
      split at read
      · rename_i texts
        split at read
        · rename_i values found
          obtain ⟨fields, rfl, bounds, same⟩ := ofValues?_eq_some_iff.mp read
          have once := mapM_eq_some_iff.mp found
          exact ⟨fields, .object (List.all_eq_true.mp texts) (once.imp fun _ _ => member?_eq_some_iff.mp), bounds, same⟩
        · cases read
      · cases read
    · cases read
  · rintro ⟨fields, described, bounds, same⟩
    have read : ofValues? fields.values = some config := ofValues?_eq_some_iff.mpr ⟨fields, rfl, bounds, same⟩
    cases described with
    | array => exact read
    | object texts once =>
      have found := mapM_eq_some_iff.mpr (once.imp fun _ _ => member?_eq_some_iff.mpr)
      rw [ofJson?, if_pos (List.all_eq_true.mpr texts), found]
      exact read

theorem ofDocument?_eq_some_iff {text : String} {config : Config} :
    ofDocument? text = some config ↔
      ∃ json fields, Json.read? text = some json ∧ Describes json fields ∧ fields.InRange ∧ config.fields = fields := by
  unfold ofDocument?
  split
  · rename_i json read
    rw [ofJson?_eq_some_iff]
    constructor
    · rintro ⟨fields, accepted⟩
      exact ⟨json, fields, read, accepted⟩
    · rintro ⟨other, fields, again, accepted⟩
      cases read.symm.trans again
      exact ⟨fields, accepted⟩
  · rename_i unread
    constructor
    · nofun
    · rintro ⟨json, fields, read, -⟩
      cases unread.symm.trans read

/-- The fields as the members of an object. -/
def Fields.members (fields : Fields) : List (Option String × Json) :=
  List.zipWith (fun name value => (some name, value)) memberNames fields.values

/-- An object with the members in any order describes the fields. -/
theorem Fields.describes_members {fields : Fields} {members : List (Option String × Json)}
    (order : members.Perm fields.members) : Describes (.object members) fields := by
  have texts : ∀ member ∈ fields.members, member.1.isSome := by simp [Fields.members, Fields.values, memberNames]
  have once : List.Forall₂
      (fun name value => (fields.members.filter fun member => member.1 = some name) = [(some name, value)])
      memberNames fields.values := by
    simp [Fields.members, Fields.values, memberNames]
  refine .object (fun member held => texts member (order.mem_iff.mp held)) (once.imp fun name value only => ?_)
  have same := order.filter fun member => member.1 = some name
  rw [only] at same
  exact List.perm_singleton.mp same

/-- The members of the compact document are written as the values of the fields, each under its name. -/
theorem spells_members (config : Config) : List.Forall₂ Json.SpellsMember config.members config.fields.members := by
  have number : ∀ name n, Json.SpellsMember (name, Nat.toDigits 10 n) (some name, .natural n) :=
    fun name n => ⟨rfl, Json.spells_toDigits n⟩
  have text : ∀ name text, Json.SpellsMember (name, Json.writeString text) (some name, .string (some text)) :=
    fun name text => ⟨rfl, Json.spells_writeString text⟩
  exact .cons (number _ _) (.cons (number _ _) (.cons (text _ _) (.cons (text _ _) (.cons (number _ _) (.cons (number _ _)
    (.cons (number _ _) .nil))))))

theorem ofDocument?_of_describes {text : String} {json : Json} {config : Config} (read : Json.read? text = some json)
    (described : Describes json config.fields) : ofDocument? text = some config :=
  ofDocument?_eq_some_iff.mpr ⟨json, config.fields, read, described, config.inRange_fields, rfl⟩

/-- The members in any order read back. -/
theorem ofDocument?_writeObject {config : Config} {members : List (String × List Char)}
    (order : members.Perm config.members) : ofDocument? (String.ofList (Json.writeObject members)) = some config := by
  obtain ⟨read, spelled, same⟩ := List.perm_comp_forall₂ order config.spells_members
  exact ofDocument?_of_describes (Json.read?_writeObject spelled) (Fields.describes_members same)

/-- The values in the order of the fields read back. -/
theorem ofDocument?_writeArray (config : Config) :
    ofDocument? (String.ofList (Json.writeArray (config.members.map Prod.snd))) = some config := by
  have values : config.fields.values = config.fields.members.map Prod.snd := rfl
  have spelled : List.Forall₂ Json.Spells (config.members.map Prod.snd) config.fields.values := by
    rw [values, List.forall₂_map_left_iff, List.forall₂_map_right_iff]
    exact config.spells_members.imp fun _ _ member => member.2
  exact ofDocument?_of_describes (Json.read?_writeArray spelled) .array

end LeafHub.Config
