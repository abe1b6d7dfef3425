import SourceHarvest.Fingerprint.Ledger
import Mathlib.Data.String.Basic

/-!
# The order of a ledger

The fingerprints of a ledger lie in the order of their path texts, each text once, and stay
so whatever is recorded or removed.  So a ledger is known by what it answers for each path.
-/

namespace SourceHarvest

namespace Json

variable {α : Type}

theorem lookup_insertMember_other {name other : String} (distinct : other ≠ name)
    (value : α) (members : List (String × α)) :
    (insertMember name value members).lookup other = members.lookup other := by
  have apart : (other == name) = false := by simpa using distinct
  induction members with
  | nil => simp [insertMember, List.lookup_cons, List.lookup_nil, apart]
  | cons first rest inductionHypothesis =>
      rcases first with ⟨held, kept⟩
      simp only [insertMember]
      split
      · simp [List.lookup_cons, apart]
      · split
        · rename_i same
          subst same
          simp [List.lookup_cons, apart]
        · simp [List.lookup_cons, inductionHypothesis]

/-- The names of members ascend, so none of them occurs twice. -/
def Ordered (members : List (String × α)) : Prop :=
  members.Pairwise fun first second => first.1 < second.1

theorem mem_insertMember {name : String} {value : α} {members : List (String × α)}
    {member : String × α} (inside : member ∈ insertMember name value members) :
    member = (name, value) ∨ member ∈ members := by
  induction members with
  | nil => exact .inl (List.mem_singleton.mp inside)
  | cons first rest inductionHypothesis =>
      rcases first with ⟨held, kept⟩
      simp only [insertMember] at inside
      split at inside
      · exact List.mem_cons.mp inside
      · split at inside
        · rcases List.mem_cons.mp inside with here | later
          · exact .inl here
          · exact .inr (List.mem_cons_of_mem _ later)
        · rcases List.mem_cons.mp inside with here | later
          · exact .inr (here ▸ List.mem_cons_self)
          · exact (inductionHypothesis later).imp id (List.mem_cons_of_mem _)

theorem ordered_insertMember (name : String) (value : α) {members : List (String × α)}
    (ordered : Ordered members) : Ordered (insertMember name value members) := by
  induction members with
  | nil => exact List.pairwise_singleton _ _
  | cons first rest inductionHypothesis =>
      rcases first with ⟨held, kept⟩
      rcases List.pairwise_cons.mp ordered with ⟨below, restOrdered⟩
      simp only [insertMember]
      split
      · rename_i before
        refine List.pairwise_cons.mpr ⟨fun member inside => ?_, ordered⟩
        rcases List.mem_cons.mp inside with rfl | later
        · exact before
        · exact before.trans (below member later)
      · rename_i notBefore
        split
        · rename_i same
          exact List.pairwise_cons.mpr ⟨fun member inside => same ▸ below member inside, restOrdered⟩
        · rename_i distinct
          refine List.pairwise_cons.mpr ⟨fun member inside => ?_, inductionHypothesis restOrdered⟩
          rcases mem_insertMember inside with rfl | later
          · exact lt_of_le_of_ne (not_lt.mp notBefore) (Ne.symm distinct)
          · exact below member later

theorem ordered_orderMembers (members : List (String × α)) : Ordered (orderMembers members) := by
  have general (sofar : List (String × α)) (ordered : Ordered sofar) :
      Ordered (members.foldl (fun ordered pair => insertMember pair.1 pair.2 ordered) sofar) := by
    induction members generalizing sofar with
    | nil => exact ordered
    | cons first rest inductionHypothesis =>
        exact inductionHypothesis _ (ordered_insertMember first.1 first.2 ordered)
  exact general [] List.Pairwise.nil

theorem mem_orderMembers {members : List (String × α)} {member : String × α}
    (inside : member ∈ orderMembers members) : member ∈ members := by
  have general (listed sofar : List (String × α))
      (inside : member ∈ listed.foldl (fun ordered pair => insertMember pair.1 pair.2 ordered) sofar) :
      member ∈ sofar ∨ member ∈ listed := by
    induction listed generalizing sofar with
    | nil => exact .inl inside
    | cons first rest inductionHypothesis =>
        rcases inductionHypothesis _ inside with found | later
        · rcases mem_insertMember found with rfl | old
          · exact .inr List.mem_cons_self
          · exact .inl old
        · exact .inr (List.mem_cons_of_mem _ later)
  rcases general members [] inside with impossible | found
  · cases impossible
  · exact found

theorem lookup_of_mem_ordered {members : List (String × α)} (ordered : Ordered members)
    {member : String × α} (inside : member ∈ members) :
    members.lookup member.1 = some member.2 := by
  induction members with
  | nil => cases inside
  | cons first rest inductionHypothesis =>
      rcases List.pairwise_cons.mp ordered with ⟨below, restOrdered⟩
      rcases List.mem_cons.mp inside with rfl | later
      · rw [List.lookup_cons, beq_self_eq_true]
      · have apart : (member.1 == first.1) = false := by
          simpa using (ne_of_lt (below member later)).symm
        rw [List.lookup_cons, apart]
        exact inductionHypothesis restOrdered later

theorem lookup_eq_some_iff_mem {members : List (String × α)} (ordered : Ordered members)
    (member : String × α) : members.lookup member.1 = some member.2 ↔ member ∈ members := by
  constructor
  · intro found
    rcases List.lookup_eq_some_iff.mp found with ⟨before, after, rfl, _⟩
    exact List.mem_append_right _ List.mem_cons_self
  · exact lookup_of_mem_ordered ordered

theorem Ordered.nodup {members : List (String × α)} (ordered : Ordered members) : members.Nodup :=
  ordered.imp fun before same => (ne_of_lt before) (congrArg Prod.fst same)

/-- There is one order of members. -/
theorem Ordered.eq_of_perm {left right : List (String × α)} (leftOrdered : Ordered left)
    (rightOrdered : Ordered right) (permuted : left.Perm right) : left = right := by
  apply permuted.eq_of_pairwise ?_ leftOrdered rightOrdered
  intro first second _ _ before after
  exact absurd (before.trans after) (lt_irrefl _)

/-- Ordered members are known by what is looked up in them. -/
theorem Ordered.ext {left right : List (String × α)} (leftOrdered : Ordered left)
    (rightOrdered : Ordered right) (same : ∀ name, left.lookup name = right.lookup name) :
    left = right := by
  have members (member : String × α) : member ∈ left ↔ member ∈ right := by
    rw [← lookup_eq_some_iff_mem leftOrdered, ← lookup_eq_some_iff_mem rightOrdered, same]
  exact leftOrdered.eq_of_perm rightOrdered
    ((List.perm_ext_iff_of_nodup leftOrdered.nodup rightOrdered.nodup).mpr members)

theorem Ordered.nodup_names {members : List (String × α)} (ordered : Ordered members) :
    (members.map (·.1)).Nodup :=
  List.Pairwise.map _ (fun _ _ before => ne_of_lt before) ordered

theorem insertMember_perm {name : String} (value : α) {members : List (String × α)}
    (fresh : name ∉ members.map (·.1)) :
    (insertMember name value members).Perm ((name, value) :: members) := by
  induction members with
  | nil => exact .refl _
  | cons first rest inductionHypothesis =>
      rcases first with ⟨held, kept⟩
      have apart : name ≠ held ∧ name ∉ rest.map (·.1) := by simpa using fresh
      rw [insertMember, if_neg apart.1]
      split
      · exact .refl _
      · exact ((inductionHypothesis apart.2).cons _).trans (.swap _ _ _)

/-- Ordering members with different names moves them and does nothing else. -/
theorem orderMembers_perm {members : List (String × α)} (distinct : (members.map (·.1)).Nodup) :
    (orderMembers members).Perm members := by
  have general (listed sofar : List (String × α)) (distinct : ((listed ++ sofar).map (·.1)).Nodup) :
      (listed.foldl (fun ordered pair => insertMember pair.1 pair.2 ordered) sofar).Perm
        (listed ++ sofar) := by
    induction listed generalizing sofar with
    | nil => exact .refl _
    | cons first rest inductionHypothesis =>
        have apart : first.1 ∉ (rest ++ sofar).map (·.1) :=
          (List.nodup_cons.mp distinct).1
        have fresh : first.1 ∉ sofar.map (·.1) := fun member =>
          apart (by rw [List.map_append]; exact List.mem_append_right _ member)
        have moved : (rest ++ insertMember first.1 first.2 sofar).Perm (first :: (rest ++ sofar)) :=
          ((insertMember_perm first.2 fresh).append_left rest).trans List.perm_middle
        exact (inductionHypothesis _ ((moved.map _).nodup_iff.mpr distinct)).trans moved
  have ordered := general members [] (by rwa [List.append_nil])
  rwa [List.append_nil] at ordered

/-- Members can be listed in any way: there is one order to put them in. -/
theorem orderMembers_of_perm {listed members : List (String × α)} (ordered : Ordered members)
    (listing : listed.Perm members) : orderMembers listed = members := by
  have distinct : (listed.map (·.1)).Nodup := (listing.map _).nodup_iff.mpr ordered.nodup_names
  exact (ordered_orderMembers listed).eq_of_perm ordered ((orderMembers_perm distinct).trans listing)

/-- Of several members with one name, the last is the one that is looked up. -/
theorem lookup_orderMembers (members : List (String × α)) (name : String) :
    (orderMembers members).lookup name = members.reverse.lookup name := by
  have general (listed sofar : List (String × α)) :
      (listed.foldl (fun ordered pair => insertMember pair.1 pair.2 ordered) sofar).lookup name =
        (listed.reverse ++ sofar).lookup name := by
    induction listed generalizing sofar with
    | nil => rfl
    | cons first rest inductionHypothesis =>
        rw [List.foldl_cons, inductionHypothesis, List.reverse_cons, List.append_assoc,
          List.lookup_append, List.lookup_append, List.singleton_append]
        congr 1
        by_cases same : name = first.1
        · rw [same, lookup_insertMember_self, List.lookup_cons, beq_self_eq_true]
        · have apart : (name == first.1) = false := by simpa using same
          rw [lookup_insertMember_other same, List.lookup_cons, apart]
  have ordered := general members []
  rwa [List.append_nil] at ordered

/-- The ordered members are known by their order and by what is looked up in them. -/
theorem orderMembers_eq_iff {listed members : List (String × α)} :
    orderMembers listed = members ↔
      Ordered members ∧ ∀ name, members.lookup name = listed.reverse.lookup name := by
  constructor
  · rintro rfl
    exact ⟨ordered_orderMembers listed, lookup_orderMembers listed⟩
  · rintro ⟨ordered, same⟩
    exact (ordered_orderMembers listed).ext ordered fun name =>
      (lookup_orderMembers listed name).trans (same name).symm

end Json

namespace Ledger

theorem get?_record_other {path other : Path} (distinct : other ≠ path) (ledger : Ledger)
    (fingerprint : Fingerprint) :
    (ledger.record path fingerprint).get? other = ledger.get? other :=
  Json.lookup_insertMember_other (fun same => distinct (congrArg Path.mk same)) fingerprint ledger.entries

theorem get?_remove_other {path other : Path} (distinct : other ≠ path) (ledger : Ledger) :
    (ledger.remove path).get? other = ledger.get? other := by
  have apart : other.text ≠ path.text := fun same => distinct (congrArg Path.mk same)
  rcases ledger with ⟨entries⟩
  simp only [get?, remove]
  induction entries with
  | nil => rfl
  | cons entry rest inductionHypothesis =>
      rcases entry with ⟨name, fingerprint⟩
      by_cases same : name = path.text
      · have other : (other.text == name) = false := by simpa [same] using apart
        rw [List.filter_cons, if_neg (by simpa using same), List.lookup_cons, other]
        exact inductionHypothesis
      · rw [List.filter_cons, if_pos (by simpa using same), List.lookup_cons, List.lookup_cons,
          inductionHypothesis]

theorem has_remove_self (ledger : Ledger) (path : Path) : (ledger.remove path).has path = false := by
  rw [has, get?_remove_self]
  rfl

theorem has_remove_other {path other : Path} (distinct : other ≠ path) (ledger : Ledger) :
    (ledger.remove path).has other = ledger.has other := by
  rw [has, get?_remove_other distinct, has]

/-- What is left when a path is removed are the other paths, with the fingerprints that they had. -/
theorem get?_of_get?_remove {ledger : Ledger} {path other : Path} {fingerprint : Fingerprint}
    (found : (ledger.remove path).get? other = some fingerprint) :
    other ≠ path ∧ ledger.get? other = some fingerprint := by
  have distinct : other ≠ path := by
    rintro rfl
    rw [get?_remove_self] at found
    cases found
  exact ⟨distinct, get?_remove_other distinct ledger ▸ found⟩

theorem has_of_has_remove {ledger : Ledger} {path other : Path}
    (held : (ledger.remove path).has other = true) : ledger.has other = true := by
  by_cases same : other = path
  · rw [same, has_remove_self] at held
    cases held
  · rwa [has_remove_other same] at held

/-- The fingerprints lie in the order of their path texts. -/
def Ordered (ledger : Ledger) : Prop :=
  Json.Ordered ledger.entries

theorem ordered_empty : empty.Ordered :=
  List.Pairwise.nil

theorem Ordered.record {ledger : Ledger} (ordered : ledger.Ordered) (path : Path)
    (fingerprint : Fingerprint) : (ledger.record path fingerprint).Ordered :=
  Json.ordered_insertMember path.text fingerprint ordered

theorem Ordered.remove {ledger : Ledger} (ordered : ledger.Ordered) (path : Path) :
    (ledger.remove path).Ordered :=
  ordered.filter _

/-- Ordered ledgers are known by the fingerprints that they have. -/
theorem Ordered.ext {left right : Ledger} (leftOrdered : left.Ordered)
    (rightOrdered : right.Ordered) (same : ∀ path, left.get? path = right.get? path) :
    left = right :=
  congrArg Ledger.mk (Json.Ordered.ext leftOrdered rightOrdered fun name => same ⟨name⟩)

end Ledger

end SourceHarvest
