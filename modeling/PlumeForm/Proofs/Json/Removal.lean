import PlumeForm.Json.Record
import PlumeForm.Proofs.Json.RoundTrip

/-!
# Members that are left out

`without gone v` is `v` less the members whose paths are in `gone`, at every level of objects. What
is left stays readable (`Readable.without`), and a record that is read from it has the default for
every field that is gone, and else what the field's own value comes to (`optional_membersWithout`).
-/

namespace PlumeForm

namespace Json

variable {gone : List String → Bool} {levels : Nat}

mutual

/-- A value without the members at these paths. -/
def without : (List String → Bool) → Json → Json
  | gone, .object members => .object (membersWithout gone members)
  | _, v => v

/-- The members of an object without those at these paths. -/
def membersWithout : (List String → Bool) → List (String × Json) → List (String × Json)
  | _, [] => []
  | gone, (n, v) :: ms =>
    if gone [n] then membersWithout gone ms
    else (n, without (fun path => gone (n :: path)) v) :: membersWithout gone ms

end

mutual

theorem without_false : ∀ v, without (fun _ => false) v = v
  | .object members => by rw [without, membersWithout_false members]
  | .null | .bool _ | .number _ | .text _ | .list _ => rfl

theorem membersWithout_false : ∀ members, membersWithout (fun _ => false) members = members
  | [] => rfl
  | (n, v) :: ms => by
    rw [membersWithout, if_neg Bool.false_ne_true, without_false v, membersWithout_false ms]

end

theorem member?_membersWithout (members : List (String × Json)) (name : String) :
    member? (membersWithout gone members) name =
      if gone [name] then none
      else (member? members name).map (without fun path => gone (name :: path)) := by
  induction members with
  | nil => simp [membersWithout]
  | cons m ms ih =>
    obtain ⟨n, v⟩ := m
    rw [membersWithout, member?_cons]
    by_cases hn : n = name
    · subst hn
      by_cases hgone : gone [n] = true
      · simp [hgone, ih]
      · simp [hgone, member?_cons]
    · by_cases hgone : gone [n] = true
      · simp only [hgone, if_true, ih, hn, if_false]
      · simp only [hgone, member?_cons, ih, hn, if_false, Bool.false_eq_true]

theorem exists_of_mem_membersWithout {members : List (String × Json)} {m : String × Json}
    (h : m ∈ membersWithout gone members) :
    ∃ v, (m.1, v) ∈ members ∧ m.2 = without (fun path => gone (m.1 :: path)) v := by
  induction members with
  | nil => cases h
  | cons w ms ih =>
    obtain ⟨n, v⟩ := w
    rw [membersWithout] at h
    split at h
    · obtain ⟨u, hu, hm⟩ := ih h
      exact ⟨u, List.mem_cons_of_mem _ hu, hm⟩
    · rcases List.mem_cons.1 h with rfl | h
      · exact ⟨v, List.mem_cons_self, rfl⟩
      · obtain ⟨u, hu, hm⟩ := ih h
        exact ⟨u, List.mem_cons_of_mem _ hu, hm⟩

theorem names_membersWithout (members : List (String × Json)) :
    (membersWithout gone members).map (·.1) = (members.map (·.1)).filter fun n => !gone [n] := by
  induction members with
  | nil => rfl
  | cons m ms ih =>
    obtain ⟨n, v⟩ := m
    rw [membersWithout]
    by_cases hgone : gone [n] = true
    · simp [hgone, ih]
    · simp [hgone, ih]

theorem Readable.without {v : Json} (h : Readable levels v) (gone : List String → Bool) :
    Readable levels (v.without gone) := by
  induction h generalizing gone with
  | null => exact .null
  | bool b => exact .bool b
  | number h => exact .number h
  | text s => exact .text s
  | list h => exact .list h
  | object hnames h ih =>
    apply Readable.object
    · rw [names_membersWithout]
      exact hnames.filter _
    · intro m hm
      obtain ⟨v, hv, hmv⟩ := exists_of_mem_membersWithout hm
      rw [hmv]
      exact ih (m.1, v) hv _

end Json

/-- A field with a default is the default if its member is gone, and else it is read from what is
left of its value. -/
theorem Record.optional_membersWithout {α : Type} {gone : List String → Bool}
    {members : List (String × Json)} {name : String} {value : Json} {default result : α}
    {read : Json → Option α} (place : Nat) (hmember : Json.member? members name = some value)
    (hread : gone [name] = false →
      read (value.without fun path => gone (name :: path)) = some result) :
    (Record.named (Json.membersWithout gone members)).optional place name default read =
      some (if gone [name] then default else result) := by
  rw [Record.optional, Record.field?_named, Json.member?_membersWithout, hmember]
  cases hgone : gone [name] with
  | true => rfl
  | false => exact hread hgone

theorem Record.bind_optional_membersWithout {α β : Type} {gone : List String → Bool}
    {members : List (String × Json)} {name : String} {value : Json} {default result : α}
    {read : Json → Option α} {next : α → Option β} {last : β} (place : Nat)
    (hmember : Json.member? members name = some value)
    (hread : gone [name] = false →
      read (value.without fun path => gone (name :: path)) = some result)
    (hnext : next (if gone [name] then default else result) = some last) :
    ((Record.named (Json.membersWithout gone members)).optional place name default read).bind next =
      some last := by
  rw [optional_membersWithout place hmember hread, Option.bind_some, hnext]

end PlumeForm
