import Highlight.Proofs.Registry.Turns
import Highlight.Registry.Depot

/-!
# Going on with a load

What polling the task of a load can do: the task cannot go on, or calls its loader, or gets past the
gate of its tag, or reports.
-/

namespace Highlight

theorem Registry.tasks_complete (r : Registry) (now : Nat) (l : Load) (result : LoadResult) :
    (r.complete now l result).tasks = r.tasks := by
  unfold complete
  cases r.slots.get? l.language with
  | none => rfl
  | some slot =>
      cases slot with
      | loading failures id =>
          by_cases hid : id = l.id
          · cases result <;> simp [hid]
          · simp [hid]
      | _ => rfl

theorem Registry.tasks_finish (r : Registry) (now id : Nat) (result : LoadResult) :
    (r.finish now id result).tasks = r.tasks.filter (·.load.id != id) := by
  unfold finish
  cases ht : r.tasks.find? (·.load.id == id) with
  | none =>
      have hother : ∀ t ∈ r.tasks, (t.load.id != id) = true := by
        intro t hmem
        simpa using List.find?_eq_none.mp ht t hmem
      exact (List.filter_eq_self.mpr hother).symm
  | some t => exact tasks_complete _ now t.load result

namespace Depot

/-- The result that the task of a load reports when it is polled, if its call is over. -/
def report? (d : Depot) (load : Nat) : Option LoadResult :=
  match d.task? load, d.stages.get? load with
  | some t, some (.working call doneAt) =>
      if doneAt ≤ d.now then
        some ((d.supply.callEnd t.load.language call).result t.loader t.load.language)
      else none
  | _, _ => none

inductive Polled (d : Depot) (load : Nat) : Option LoadResult → Depot → Prop
  | idle (hrun : ∀ t, d.task? load = some t → d.canRun t = false) : Polled d load none d
  | called (t : LoadTask) (ht : t ∈ d.registry.tasks) (hid : t.load.id = load)
      (hstage : d.stages.get? load = none) (hdue : t.callAt ≤ d.now) :
      Polled d load none
        { d with
          supply := d.supply.countCall t.load.language
          stages := d.stages.insert load (.atGate (d.supply.callCount t.load.language))
          callLog := ⟨t.load, d.now⟩ :: d.callLog }
  | passed (call doneAt : Nat) (hstage : d.stages.get? load = some (.atGate call)) :
      Polled d load none { d with stages := d.stages.insert load (.working call doneAt) }
  | reported (call doneAt : Nat) (result : LoadResult)
      (hstage : d.stages.get? load = some (.working call doneAt)) :
      Polled d load (some result) { d with registry := d.registry.finish d.now load result }

theorem polled (d : Depot) (load : Nat) : Polled d load (d.report? load) (d.poll load) := by
  unfold poll report?
  cases htask : d.task? load with
  | none => exact .idle (by simp [htask])
  | some t =>
      have ht : t ∈ d.registry.tasks := List.mem_of_find?_eq_some htask
      obtain rfl : t.load.id = load := by simpa using List.find?_some htask
      have idle : d.canRun t = false → Polled d t.load.id none d := by
        intro hrun
        exact .idle fun u hu => (Option.some.inj (htask.symm.trans hu)) ▸ hrun
      cases hstage : d.stages.get? t.load.id with
      | none =>
          by_cases hdue : t.callAt ≤ d.now
          · simpa [canRun, advance, hstage, hdue] using Polled.called t ht rfl hstage hdue
          · have hrun : d.canRun t = false := by simp [canRun, hstage, hdue]
            simpa [hrun] using idle hrun
      | some stage =>
          cases stage with
          | atGate call =>
              cases hrun : d.canRun t with
              | false => simpa [hrun] using idle hrun
              | true =>
                  have hpassed := Polled.passed call (d.now + d.supply.delay t.load.language) hstage
                  simpa [hrun, advance, hstage] using hpassed
          | working call doneAt =>
              by_cases hdue : doneAt ≤ d.now
              · simpa [canRun, advance, hstage, hdue] using Polled.reported call doneAt _ hstage
              · have hrun : d.canRun t = false := by simp [canRun, hstage, hdue]
                simpa [hrun, hdue] using idle hrun

variable {d d' : Depot} {load : Nat} {result? : Option LoadResult}

theorem Polled.now_eq (h : Polled d load result? d') : d'.now = d.now := by
  cases h <;> rfl

theorem Polled.turn (h : Polled d load result? d') : Registry.Turn d.registry none d'.registry := by
  cases h with
  | reported call doneAt result hstage => exact d.registry.finish_turn d.now load result
  | _ => exact .idle d.registry.tasks

end Depot

end Highlight
