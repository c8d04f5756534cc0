import Mathlib.Data.List.Nodup
import BulkSuppress.Proofs.Batch.Refinement

/-
  What a batch leaves alone. A step of a pipeline writes what its path leads to and nothing else
  (`touches_step`), and writing never changes where a path leads. So whatever differs on the disk
  of a batch is what some listed path leads to (`exists_mem_of_changed`), in whatever order the
  moves come and also where paths share a file. The engine has to leave the disk as it is; what
  its verdicts depend on plays no part.
-/

namespace BulkSuppress

/-- The engine writes nothing itself. -/
def Engine.KeepsDisk (e : Engine) : Prop := ∀ d p, (e.lint d p).value.1 = d

theorem Engine.IsLocal.keepsDisk {e : Engine} (h : e.IsLocal) : e.KeepsDisk := h.keeps_disk

namespace Pipeline

variable {e : Engine} {a : Annotator} {d d' : Disk} {p : Path}

theorem touches_write (hs : d.SameShape d') (rules : RuleSet) (content : String) :
    Touches d p d' (write a d' p rules content).value.1 := by
  unfold write
  cases hw : d'.writeBytes p (Utf8.encode (Header.build a.remark rules ++ content)) with
  | error why => exact .inl rfl
  | ok after =>
    rw [Disk.writeBytes] at hw
    cases hr : d'.readFile p with
    | error why =>
      rw [hr] at hw
      cases hw
    | ok r =>
      rw [hr] at hw
      have hloc : d'.resolve p = .ok r.1 := (Disk.readFile_eq_ok hr).1
      rw [hs.resolve_eq] at hloc
      exact .inr ⟨r.1, _, hloc, (Except.ok.inj hw).symm⟩

/-- A step of a pipeline changes the content of what its path leads to, if anything. -/
theorem touches_step (hk : e.KeepsDisk) (hs : d.SameShape d') (stage : Stage) :
    Touches d p d' (step e a p d' stage).value.1 := by
  cases stage with
  | linting => exact .inl (hk d' p)
  | reading rules => exact .inl rfl
  | writing rules content => exact touches_write hs rules content
  | ended how => exact .inl rfl

end Pipeline

namespace Batch

variable {u : Setup} {d : Disk} {files : List Path} {s t : State} {loc : Location}

/-- The disk of a batch differs from the one it started on in what listed paths lead to. -/
structure Framed (d : Disk) (files : List Path) (s : State) : Prop where
  shape : d.SameShape s.disk
  elsewhere : ∀ loc, (∀ p ∈ files, d.resolve p ≠ .ok loc) → s.disk.entryAt? loc = d.entryAt? loc

theorem framed_apply (hk : u.engine.KeepsDisk) {m : Move}
    (h : Ledger files s ∧ Framed d files s) (hm : apply u s m = some t) :
    Ledger files t ∧ Framed d files t := by
  obtain ⟨hb, h⟩ := h
  refine ⟨ledger_apply hb hm, ?_⟩
  cases m with
  | acquire =>
    obtain ⟨-, -, free, -, rfl⟩ := apply_acquire.1 hm
    exact ⟨h.shape, h.elsewhere⟩
  | spawn =>
    obtain ⟨-, p, rest, -, rfl⟩ := apply_spawn.1 hm
    exact ⟨h.shape, h.elsewhere⟩
  | work i =>
    obtain ⟨w, hw, -, rfl⟩ := apply_work.1 hm
    have hp : w.path ∈ files := by
      rw [← hb.dispatched]
      exact List.mem_append_left _ (List.mem_map_of_mem (List.mem_of_getElem? hw))
    have htouch := Pipeline.touches_step hk h.shape w.stage (a := u.annotator) (p := w.path)
    refine ⟨h.shape.of_touches htouch, fun loc hloc => ?_⟩
    rw [← h.elsewhere loc hloc]
    exact Disk.entryAt?_of_touches htouch (hloc w.path hp)
  | join =>
    obtain ⟨-, p, how, -, rfl⟩ := apply_join.1 hm
    exact ⟨h.shape, h.elsewhere⟩

theorem framed_of_reachable (hk : u.engine.KeepsDisk) (h : Reachable u d files s) :
    Framed d files s :=
  (h.invariant (P := fun s => Ledger files s ∧ Framed d files s)
    ⟨⟨rfl, List.nil_prefix⟩, .refl d, fun _ _ => rfl⟩ fun _ _ _ => framed_apply hk).2

/-- Whatever a batch changes is what a listed path leads to. -/
theorem exists_mem_of_changed (hk : u.engine.KeepsDisk) (h : Reachable u d files s)
    (hne : s.disk.entryAt? loc ≠ d.entryAt? loc) : ∃ p ∈ files, d.resolve p = .ok loc := by
  by_contra hnone
  exact hne ((framed_of_reachable hk h).elsewhere loc fun p hp hloc => hnone ⟨p, hp, hloc⟩)

/-! ## A sample engine -/

def strictRules : RuleSet := ⟨["semi"], List.nodup_singleton "semi"⟩

/-- An engine that finds the same rule violated in every file. -/
def strictEngine : Engine where
  name := "strict"
  lint d _ := ⟨(d, .rules strictRules), []⟩

/-- At most two files at a time. -/
def strictSetup : Setup := setupOf strictEngine ⟨"x", false⟩ 2

theorem isLocal_strictEngine : strictEngine.IsLocal := ⟨fun _ _ => rfl, fun _ _ _ _ => rfl⟩

theorem build_strictRules :
    Header.build "x" strictRules = "// x\n/* eslint-disable semi */\n" := by
  decide

end Batch
end BulkSuppress
