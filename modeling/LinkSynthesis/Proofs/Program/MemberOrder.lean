import LinkSynthesis.Proofs.Action.ListFields
import LinkSynthesis.Proofs.Toolchain.Setting

/-!
# The order of members

What a document says does not depend on the order of its members. A description is read key by key,
in an order of its own, so that even its error is the same. The members of a toolchain document are
read as they stand, so their order can tell which of several errors is reported, and no more than
that (`ofDocument_of_perm`).
-/

namespace LinkSynthesis
open Json (Value Members)

/-! ### What is looked up -/

/-- Where no name is repeated, the value of a member does not depend on where it stands. -/
theorem Json.Members.get?_of_perm {members members' : Members}
    (unique : (members.map (·.1)).Nodup) (order : members.Perm members') (key : String) :
    members.get? key = members'.get? key := by
  have unique' : (members'.map (·.1)).Nodup := (order.map (·.1)).nodup_iff.1 unique
  ext value
  rw [get?_eq_some_iff unique, get?_eq_some_iff unique', order.mem_iff]

theorem NameSet.ofList_eq_of_perm {names names' : List String} (order : names.Perm names') :
    ofList names = ofList names' :=
  ext_of_mem fun _ => by rw [mem_ofList, mem_ofList, order.mem_iff]

namespace Description

variable {members members' : Members}

section

variable (unique : (members.map (·.1)).Nodup) (order : members.Perm members')

include unique order

/-- The least unknown key and the first missing one are the same. -/
theorem checkKeys_eq_of_perm : checkKeys members = checkKeys members' := by
  have get : members.get? = members'.get? := funext (Members.get?_of_perm unique order)
  have unknown := (order.map (·.1)).filter fun key => !keys.contains key
  unfold checkKeys Members.has
  dsimp only
  rw [get, NameSet.ofList_eq_of_perm unknown]

theorem draft_eq_of_perm (tc : Toolchain) : draft members tc = draft members' tc := by
  have get := Members.get?_of_perm unique order
  refine draft_congr (checkKeys_eq_of_perm unique order) (fun key _ => get key) (fun key _ => ?_) tc
  rw [elementsAt, valueAt, get key, elementsAt, valueAt]

end

end Description

/-! ### Documents -/

/-- **The order of members does not matter.** An object with its members in another order describes
the same action, or is refused with the same error. As a toolchain document it is accepted just if
it was before, and makes the same toolchain. -/
theorem ofDocument_of_perm {members members' : Members} (unique : (members.map (·.1)).Nodup)
    (order : members.Perm members') :
    (∀ tc, Action.ofDocument (.obj members) tc = Action.ofDocument (.obj members') tc) ∧
      ∀ tc, Toolchain.ofDocument (.obj members) = .ok tc ↔
        Toolchain.ofDocument (.obj members') = .ok tc := by
  constructor
  · intro tc
    rw [Action.ofDocument, Action.ofDocument, Action.ofDescription, Action.ofDescription,
      Description.draft_eq_of_perm unique order]
  · intro tc
    have unique' : (members'.map (·.1)).Nodup := (order.map (·.1)).nodup_iff.1 unique
    exact ⟨Toolchain.ofMembers_of_perm order unique, Toolchain.ofMembers_of_perm order.symm unique'⟩

/-- A description without an owner and with two keys that descriptions do not have. -/
def strangeDescription : Members :=
  [("target", .str "executable"), ("visibility", .arr []), ("output", .null), ("deps", .int 5)]

/-- Settings of a toolchain, of several kinds. -/
def serverSettings : Members :=
  [("link_flags", .arr [.str "-shared"]),
   ("dynamic_link_flags", .obj [("features", .obj [("asan", .arr [.str "-lasan"])])]),
   ("archive_type", .str "Thin"), ("fdo_mode", .null), ("coverage", .bool true)]

theorem ofDocument_reverse :
    Action.ofDocument (.obj strangeDescription.reverse) {} = .error (.unknownKey "deps") ∧
      Toolchain.ofDocument (.obj serverSettings.reverse) = .ok {
        archiveType := .thin
        dynamicLinkFlags := { groups := [("asan", ["-lasan"])] }
        linkFlags := ["-shared"]
        coverage := true } := by
  have unique : (strangeDescription.map (·.1)).Nodup := by decide
  have order : strangeDescription.Perm strangeDescription.reverse := (List.reverse_perm _).symm
  have unique' : (serverSettings.map (·.1)).Nodup := by decide
  have order' : serverSettings.Perm serverSettings.reverse := (List.reverse_perm _).symm
  refine ⟨((ofDocument_of_perm unique order).1 {}).symm, ?_⟩
  exact ((ofDocument_of_perm unique' order').2 _).1 rfl

end LinkSynthesis
