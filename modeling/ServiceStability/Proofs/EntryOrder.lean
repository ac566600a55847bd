import ServiceStability.Proofs.BlockingChains
import ServiceStability.Proofs.Reachability
/-!
# Proofs.EntryOrder — the order in which services come makes no difference to them

What is unavailable and what is blocked can be read off a graph by names alone, so graphs that hold the same records in
different orders resolve to the same records.  And installing services one after another, with a resolution behind each,
resolves in the end to what one resolution of all of them gives: the marks made on the way, when dependencies were still
missing, are marks left over, which count for nothing.

- `Graph.Agree`: the same records under the same names.
- `Graph.Agree.resolve`: resolution keeps that.
- `ServiceSpec.installInTurn_resolve`: installing one by one is restoring at once.
- `RuntimeSnapshot.order_makes_no_difference`: neither depends on the order.
-/
namespace ServiceStability

theorem OrderedMap.get?_of_perm {κ ν : Type} [DecidableEq κ] {m n : OrderedMap κ ν} (perm : m.toList.Perm n.toList)
    (k : κ) : m.get? k = n.get? k := by
  refine Option.ext fun v => ?_
  rw [get?_eq_some_iff, get?_eq_some_iff, perm.mem_iff]

namespace Graph

variable {g h : Graph} {name : ServiceName}

/-- **Graphs with the same records under the same names**, in whatever order. -/
def Agree (g h : Graph) : Prop := ∀ name, g.get? name = h.get? name

namespace Agree

theorem symm (agree : g.Agree h) : h.Agree g := fun name => (agree name).symm

theorem isUnavailable_eq (agree : g.Agree h) : g.isUnavailable = h.isUnavailable := by
  funext dependency
  rw [isUnavailable, isUnavailable, agree dependency]

theorem blocked (agree : g.Agree h) (blocked : g.Blocked name) : h.Blocked name := by
  induction blocked with
  | unavailable found able edge missing =>
    exact .unavailable ((agree _).symm.trans found) able edge (agree.isUnavailable_eq ▸ missing)
  | failed found able edge broken =>
    rw [substate?, agree] at broken
    exact .failed ((agree _).symm.trans found) able edge broken
  | chain found able edge _ ih => exact .chain ((agree _).symm.trans found) able edge ih

theorem blocked_iff (agree : g.Agree h) : g.Blocked name ↔ h.Blocked name := ⟨agree.blocked, agree.symm.blocked⟩

/-- **Graphs with the same records resolve to the same records**, in whatever order they hold them. -/
theorem resolve (agree : g.Agree h) : g.resolve.Agree h.resolve := by
  intro name
  have first := resolution_resolve g
  have second := resolution_resolve h
  cases installed : g.get? name with
  | none =>
    have missing : name ∉ g.resolve.keys := first.alike.keys ▸ OrderedMap.get?_eq_none_iff.1 installed
    have missing' : name ∉ h.resolve.keys :=
      second.alike.keys ▸ OrderedMap.get?_eq_none_iff.1 ((agree name).symm.trans installed)
    rw [OrderedMap.get?_eq_none_iff.2 missing, OrderedMap.get?_eq_none_iff.2 missing']
  | some r =>
    obtain ⟨s, found, same⟩ := first.alike.exists_record installed
    obtain ⟨t, found', same'⟩ := second.alike.exists_record ((agree name).symm.trans installed)
    have equal : s = t := first.record_eq second found found' (same.symm.trans same') agree.isUnavailable_eq
      agree.blocked_iff
    rw [found, found', equal]

end Agree

theorem Alike.insert (alike : g.Alike h) (name : ServiceName) (r : ServiceRecord) :
    Graph.Alike (g.insert name r) (h.insert name r) where
  keys := by rw [OrderedMap.keys_insert, OrderedMap.keys_insert, alike.keys]
  record := fun {other s t} found found' => by
    rw [OrderedMap.get?_insert] at found found'
    split at found
    · next own =>
      rw [if_pos own] at found'
      cases found
      cases found'
      exact .refl r
    · next apart =>
      rw [if_neg apart] at found'
      exact alike.record found found'

end Graph

/-- **A service as it is asked to be installed.** -/
structure ServiceSpec where
  name : ServiceName
  mode : Mode
  dependencies : OrderedSet ServiceName
deriving DecidableEq

namespace ServiceSpec

variable {spec : ServiceSpec}

def install (spec : ServiceSpec) : Operation := .install spec.name spec.mode spec.dependencies

/-- The entry of a service that is down. -/
def entry (spec : ServiceSpec) : ServiceEntry where
  name := spec.name
  mode := spec.mode
  state := .down
  failure := none
  dependencies := spec.dependencies.toList

/-- **Install one service after another**, until one is refused. -/
def installInTurn (g : Graph) (specs : List ServiceSpec) : Except OperationError Graph :=
  specs.foldlM (fun g spec => g.apply spec.install) g

theorem toRecord_entry (spec : ServiceSpec) :
    spec.entry.toRecord = .installed spec.name spec.mode spec.dependencies := by
  rw [ServiceEntry.toRecord, entry, OrderedSet.ofList_toList]
  rfl

/-- **An installation on a resolved graph** comes to what resolving only behind it would. -/
theorem apply_install_resolve (g : Graph) (spec : ServiceSpec) :
    g.resolve.apply spec.install = if g.contains spec.name then .error (.duplicateService spec.name)
      else .ok (Graph.resolve (g.insert spec.name spec.entry.toRecord)) := by
  have alike := (Graph.resolution_resolve g).alike
  have listed : g.resolve.contains spec.name = g.contains spec.name := by
    rw [Bool.eq_iff_iff, OrderedMap.contains_iff, OrderedMap.contains_iff, alike.keys]
  have resolved := (alike.insert spec.name spec.entry.toRecord).resolve_eq
  rw [Graph.apply, install, Graph.change, listed, ← toRecord_entry, resolved]
  split <;> rfl

/-- **Installing one by one is setting up at once**, refusals included. -/
theorem installInTurn_resolve : ∀ (specs : List ServiceSpec) (g : Graph),
    installInTurn g.resolve specs = (RuntimeSnapshot.installAll g (specs.map entry)).map Graph.resolve
  | [], g => rfl
  | spec :: specs, g => by
    have own : spec.entry.name = spec.name := rfl
    rw [installInTurn, List.foldlM_cons, apply_install_resolve, List.map_cons, RuntimeSnapshot.installAll, own]
    by_cases taken : g.contains spec.name = true
    · rw [if_pos taken, if_pos taken]
      rfl
    · rw [if_neg taken, if_neg taken]
      exact installInTurn_resolve specs (g.insert spec.name spec.entry.toRecord)

end ServiceSpec

namespace RuntimeSnapshot

variable {s t : RuntimeSnapshot}

/-- **The snapshot of some services that are down.** -/
def ofSpecs (specs : List ServiceSpec) : RuntimeSnapshot := ⟨specs.map ServiceSpec.entry⟩

theorem names_ofSpecs (specs : List ServiceSpec) : (ofSpecs specs).names = specs.map (·.name) := by
  rw [names, ofSpecs, List.map_map]
  rfl

theorem installInTurn_empty (specs : List ServiceSpec) :
    ServiceSpec.installInTurn .empty specs = (ofSpecs specs).restore := by
  rw [restore, ofSpecs, ← ServiceSpec.installInTurn_resolve, Graph.settled_empty.resolve_eq]

theorem exists_agree_of_perm (distinct : s.names.Nodup) (perm : s.services.Perm t.services) :
    ∃ g h, s.restore = .ok g ∧ t.restore = .ok h ∧ g.Agree h := by
  have renamed : s.names.Perm t.names := perm.map ServiceEntry.name
  have distinct' : t.names.Nodup := renamed.nodup_iff.1 distinct
  obtain ⟨g, restored⟩ := exists_restore_of_nodup distinct
  obtain ⟨h, restored'⟩ := exists_restore_of_nodup distinct'
  obtain ⟨-, g', entries, rfl⟩ := restore_eq_ok_iff.1 restored
  obtain ⟨-, h', entries', rfl⟩ := restore_eq_ok_iff.1 restored'
  have agree : g'.Agree h' := fun name => by
    refine OrderedMap.get?_of_perm ?_ name
    rw [entries, entries']
    exact perm.map _
  exact ⟨_, _, restored, restored', agree.resolve⟩

/-- **The order makes no difference.**  If no name comes up twice:

- A snapshot and any permutation of its entries are both restored, to graphs that hold the same record for each name.
- Services that are installed one after another, in any order, are all accepted, and in the end each has the record that
  it has in the graph restored from a snapshot of these services, all of them down. -/
theorem order_makes_no_difference :
    (∀ s t : RuntimeSnapshot, s.names.Nodup → s.services.Perm t.services →
      ∃ g h, s.restore = .ok g ∧ t.restore = .ok h ∧ ∀ name, g.get? name = h.get? name) ∧
    ∀ specs order : List ServiceSpec, (specs.map (·.name)).Nodup → specs.Perm order →
      ∃ g h, order.foldlM (fun g spec => g.apply (.install spec.name spec.mode spec.dependencies)) Graph.empty = .ok g ∧
        restore ⟨specs.map fun spec => ⟨spec.name, spec.mode, .down, none, spec.dependencies.toList⟩⟩ = .ok h ∧
        ∀ name, g.get? name = h.get? name := by
  refine ⟨fun s t => exists_agree_of_perm, fun specs order distinct perm => ?_⟩
  have distinct' : (ofSpecs order).names.Nodup := by
    rw [names_ofSpecs]
    exact (perm.map ServiceSpec.name).nodup_iff.1 distinct
  obtain ⟨g, h, installed, restored, agree⟩ :=
    exists_agree_of_perm (t := ofSpecs specs) distinct' (perm.symm.map ServiceSpec.entry)
  rw [← installInTurn_empty] at installed
  exact ⟨g, h, installed, restored, agree⟩

/-- Two services that depend on each other, and one of them on a third that is never to run. -/
def tangled : List ServiceSpec := [
  ⟨Graph.simpleName "app", .active, .ofList [Graph.simpleName "db", Graph.simpleName "off"]⟩,
  ⟨Graph.simpleName "db", .active, .ofList [Graph.simpleName "app"]⟩,
  ⟨Graph.simpleName "off", .never, .empty⟩]

theorem tangled_in_any_order :
    (ofSpecs tangled).names.Nodup ∧ (ofSpecs tangled).services.Perm (ofSpecs tangled).services.reverse ∧
    (∃ g h, (ofSpecs tangled).restore = .ok g ∧ restore ⟨(ofSpecs tangled).services.reverse⟩ = .ok h ∧
      g.substate? (Graph.simpleName "db") = some .problem ∧
      g.get? (Graph.simpleName "db") = h.get? (Graph.simpleName "db")) ∧
    tangled.Perm tangled.reverse ∧
    ∃ g h, ServiceSpec.installInTurn .empty tangled.reverse = .ok g ∧ (ofSpecs tangled).restore = .ok h ∧
      g.get? (Graph.simpleName "app") = h.get? (Graph.simpleName "app") := by
  have distinct : (ofSpecs tangled).names.Nodup := by decide
  have distinct' : (tangled.map (·.name)).Nodup := by decide
  have perm := (ofSpecs tangled).services.reverse_perm.symm
  have perm' := tangled.reverse_perm.symm
  have blocked : (ofSpecs tangled).restore.map (·.substate? (Graph.simpleName "db")) = .ok (some .problem) := by
    cbv
  obtain ⟨permuted, installed⟩ := order_makes_no_difference
  obtain ⟨g, h, restored, restored', same⟩ := permuted (ofSpecs tangled) ⟨_⟩ distinct perm
  obtain ⟨k, l, accepted, set_up, same'⟩ := installed tangled tangled.reverse distinct' perm'
  rw [restored] at blocked
  exact ⟨distinct, perm, ⟨g, h, restored, restored', Except.ok.inj blocked, same _⟩, perm', k, l, accepted, set_up,
    same' _⟩

end RuntimeSnapshot
end ServiceStability
