import FeatureToggle.Proofs.AttributeDecoding
import FeatureToggle.Proofs.Members
import FeatureToggle.User

/-!
# Users from JSON

A user is built by setting its attributes one after the other, or read from a JSON object. Both keep
the last of several attributes with one name. They differ for an attribute that is `null` in the end:
setting it removes the attribute, so that no user who is built holds a `null`, while the user who is
read does (`ofJson?_object_loads`).
-/
namespace FeatureToggle.User

open Json

/-! ## Users who are built -/

/-- The users whose attributes are set one by one. -/
inductive Built : User → Prop where
  | of (name : String) (featureAdmin : Bool) : Built (of name featureAdmin)
  | setAttribute {u : User} (name : String) (value : AttributeValue) : Built u →
      Built (u.setAttribute name value)

theorem attribute?_setAttribute (u : User) (name other : String) (value : AttributeValue) :
    (u.setAttribute name value).attribute? other =
      if name = other then (some value).filter (!·.isNull) else u.attribute? other := by
  rw [attribute?, setAttribute, SortedMap.get?_set, attribute?]
  cases hvalue : value.isNull with
  | false => simp [Option.filter, hvalue]
  | true => simp [Option.filter, hvalue]

theorem filter_ne_null (value? : Option AttributeValue) :
    value?.filter (!·.isNull) ≠ some .null := by
  intro hnull
  obtain ⟨-, hvalue⟩ := Option.filter_eq_some_iff.1 hnull
  cases hvalue

theorem filter_of_ne_null {value? : Option AttributeValue} (h : value? ≠ some .null) :
    value?.filter (!·.isNull) = value? := by
  cases value? with
  | none => rfl
  | some value =>
    have hvalue : value.isNull = false := by
      rw [Bool.eq_false_iff, ne_eq, AttributeValue.isNull_iff]
      exact fun hnull => h (hnull ▸ rfl)
    simp [Option.filter, hvalue]

/-- No step puts a `null` under a name. -/
theorem Built.attribute?_ne_null {u : User} (h : Built u) (name : String) :
    u.attribute? name ≠ some .null := by
  induction h with
  | of name admin => exact (Option.some_ne_none _).symm
  | setAttribute other value _ ih =>
    rw [attribute?_setAttribute]
    split
    · exact filter_ne_null _
    · exact ih

theorem ext_attribute? {u v : User} (hname : u.name = v.name)
    (hadmin : u.featureAdmin = v.featureAdmin)
    (hattribute : ∀ name, u.attribute? name = v.attribute? name) : u = v := by
  obtain ⟨name, admin, attributes⟩ := u
  obtain ⟨name', admin', attributes'⟩ := v
  obtain rfl : attributes = attributes' := SortedMap.ext_get? hattribute
  obtain rfl : name = name' := hname
  obtain rfl : admin = admin' := hadmin
  rfl

/-- The fields of a user as far as they are given in an object. -/
structure Fields where
  name : String
  featureAdmin : Option Bool
  attributes : Option (List (String × Json))

namespace Fields

/-- The members of these names have the values of the fields. -/
structure InObject (f : Fields) (members : List (String × Json)) : Prop where
  name : named "name" members = [.string f.name]
  featureAdmin : named "featureAdmin" members = (f.featureAdmin.map .bool).toList
  attributes : named "attributes" members = (f.attributes.map .object).toList

def listed (f : Fields) : List (String × Json) := f.attributes.getD []

/-- The user for whom the attributes are set as they are listed. -/
def built (f : Fields) : User :=
  f.listed.foldl (fun u a => u.setAttribute a.1 (.ofJson a.2))
    (of f.name (f.featureAdmin.getD false))

/-- What a user who is read is, compared with the one who is built of the same fields. -/
structure Loads (f : Fields) (u : User) : Prop where
  name : u.name = f.built.name
  featureAdmin : u.featureAdmin = f.built.featureAdmin
  attributes : ∀ name, u.attribute? name = (lastValue name f.listed).map .ofJson
  /-- Who is built has the same attributes without those that are `null`. -/
  builtAttributes : ∀ name, f.built.attribute? name = (u.attribute? name).filter (!·.isNull)
  holdsNull : ∀ name, u.attribute? name = some .null ↔ lastValue name f.listed = some .null
  same_iff : u = f.built ↔ ∀ name, u.attribute? name ≠ some .null

theorem exists_built_eq (f : Fields) :
    ∃ attributes, f.built = ⟨f.name, f.featureAdmin.getD false, attributes⟩ := by
  rw [built]
  induction f.listed using List.reverseRecOn with
  | nil => exact ⟨.empty, rfl⟩
  | append_singleton listed a ih =>
    obtain ⟨attributes, hbuilt⟩ := ih
    rw [List.foldl_append, hbuilt]
    exact ⟨_, rfl⟩

theorem attribute?_built (f : Fields) (name : String) :
    f.built.attribute? name = ((lastValue name f.listed).map .ofJson).filter (!·.isNull) := by
  rw [built]
  induction f.listed using List.reverseRecOn with
  | nil => rfl
  | append_singleton listed a ih =>
    rw [List.foldl_append, List.foldl_cons, List.foldl_nil, attribute?_setAttribute,
      lastValue_append_singleton, ih]
    split
    · rfl
    · rfl

theorem built_built (f : Fields) : Built f.built :=
  f.listed.foldlRecOn _ (.of _ _) fun _ hu a _ => hu.setAttribute a.1 _

/-- The user with the fields. -/
def user (f : Fields) : User :=
  ⟨f.name, f.featureAdmin.getD false, .ofList (f.listed.map (Prod.map id .ofJson))⟩

theorem attribute?_user (f : Fields) (name : String) :
    f.user.attribute? name = (lastValue name f.listed).map .ofJson := by
  rw [attribute?, user, SortedMap.get?_ofList, lastValue_map]

theorem loads_user (f : Fields) : f.Loads f.user := by
  obtain ⟨attributes, hbuilt⟩ := f.exists_built_eq
  have hname : f.user.name = f.built.name := by rw [hbuilt, user]
  have hadmin : f.user.featureAdmin = f.built.featureAdmin := by rw [hbuilt, user]
  have hattributes (name : String) :
      f.built.attribute? name = (f.user.attribute? name).filter (!·.isNull) := by
    rw [attribute?_built, attribute?_user]
  refine ⟨hname, hadmin, f.attribute?_user, hattributes, fun name => ?_, fun hsame name => ?_,
    fun hnull => ext_attribute? hname hadmin fun name => ?_⟩
  · rw [attribute?_user, Option.map_eq_some_iff]
    simp only [AttributeValue.ofJson_eq_null_iff, exists_eq_right]
  · rw [hsame]
    exact f.built_built.attribute?_ne_null name
  · rw [hattributes, filter_of_ne_null (hnull name)]

end Fields

/-! ## Reading -/

theorem attributesOfJson?_eq_some_iff (j : Json) (m : SortedMap AttributeValue) :
    attributesOfJson? j = some m ↔
      ∃ members : List (String × Json), j = .object members ∧
        .ofList (members.map (Prod.map id .ofJson)) = m := by
  cases j with
  | object members =>
    simp [attributesOfJson?, AttributeValue.decodeMembers?_eq, AttributeValue.ofJsonMembers_eq_map]
  | null | bool | number | string | array => simp [attributesOfJson?]

theorem ofJson?_object_iff {members : List (String × Json)} {u : User} :
    ofJson? (.object members) = some u ↔ ∃ f : Fields, f.InObject members ∧ f.user = u := by
  have hattributes {m : SortedMap AttributeValue} :
      member? members "attributes" (some .empty) attributesOfJson? = some m ↔
        ∃ given : Option (List (String × Json)),
          named "attributes" members = (given.map .object).toList ∧
            .ofList ((given.getD []).map (Prod.map id .ofJson)) = m :=
    member?_optional_map attributesOfJson?_eq_some_iff []
  simp only [ofJson?, Option.bind_eq_bind, Option.bind_eq_some_iff, Option.pure_def,
    Option.some.injEq, member?_required string?_eq_some_iff, member?_optional bool?_eq_some_iff,
    hattributes]
  constructor
  · rintro ⟨name, hname, _, ⟨admin, hadmin, rfl⟩, _, ⟨attributes, hattributes, rfl⟩, rfl⟩
    exact ⟨⟨name, admin, attributes⟩, ⟨hname, hadmin, hattributes⟩, rfl⟩
  · rintro ⟨f, ⟨hname, hadmin, hattributes⟩, rfl⟩
    exact ⟨_, hname, _, ⟨_, hadmin, rfl⟩, _, ⟨_, hattributes, rfl⟩, rfl⟩

/-- An object with the fields of a user is read as the user who is built of the fields, but for the
attributes that are `null` in the end, which stay. No user who is built holds a `null`. -/
theorem ofJson?_object_loads {f : Fields} {members : List (String × Json)}
    (h : f.InObject members) :
    (∃ u, ofJson? (.object members) = some u ∧ f.Loads u) ∧
      ∀ u : User, Built u → ∀ name, u.attribute? name ≠ some .null :=
  ⟨⟨f.user, ofJson?_object_iff.2 ⟨f, h, rfl⟩, f.loads_user⟩, fun _ hu => hu.attribute?_ne_null⟩

/-- An attribute that is `null` in the end, and one that has a `null` inside. -/
theorem ofJson?_object_loads_nulls :
    let listed : List (String × Json) :=
      [("x", .bool true), ("roles", .array [.null]), ("x", .null)]
    let members := [("attributes", .object listed), ("id", .null), ("name", .string "bob")]
    ∃ u, ofJson? (.object members) = some u ∧ u.featureAdmin = false ∧
      u.attribute? "roles" = some (.array [.null]) ∧ u.attribute? "x" = some .null ∧
      ((User.of "bob" false).setAttribute "x" .null).attribute? "x" ≠ some .null := by
  intro listed members
  let f : Fields := ⟨"bob", none, some listed⟩
  have hf : f.InObject members := ⟨rfl, rfl, rfl⟩
  obtain ⟨⟨u, hread, h⟩, hbuilt⟩ := ofJson?_object_loads hf
  exact ⟨u, hread, h.featureAdmin, h.attributes "roles", (h.holdsNull "x").2 rfl,
    hbuilt _ ((Built.of "bob" false).setAttribute "x" .null) "x"⟩

/-- An attribute that is `null` is held, though it is removed when it is set. -/
theorem ofJson?_holds_null :
    let members : List (String × Json) :=
      [("name", .string "bob"), ("attributes", .object [("x", .null)])]
    ∃ u, ofJson? (.object members) = some u ∧ u.attribute? "x" = some .null ∧
      u ≠ (User.of "bob" false).setAttribute "x" (.ofJson .null) := by
  intro members
  let f : Fields := ⟨"bob", none, some [("x", .null)]⟩
  have hread : ofJson? (.object members) = some f.user :=
    ofJson?_object_iff.2 ⟨f, ⟨rfl, rfl, rfl⟩, rfl⟩
  have hnull : f.user.attribute? "x" = some .null := (f.loads_user.holdsNull "x").2 rfl
  exact ⟨f.user, hread, hnull, fun hsame => f.loads_user.same_iff.1 hsame "x" hnull⟩

end FeatureToggle.User
