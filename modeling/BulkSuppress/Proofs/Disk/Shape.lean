import BulkSuppress.Disk.Resolve

/-
  Disks that differ in the content of files at most. Paths lead to the same locations on both
  (`SameShape.resolve_eq`), and what a path leads to can be read with the same result when the
  entry at that one location is the same (`Agree.readFile_eq`).
-/

namespace BulkSuppress.Disk

/-- At every location there are entries of the same kind, or none. -/
structure SameShape (d d' : Disk) : Prop where
  kind : d'.kind? = d.kind?
  here : d'.workingDirectory = d.workingDirectory

variable {d d' : Disk} {p : Path}

theorem SameShape.refl (d : Disk) : SameShape d d := ⟨rfl, rfl⟩

theorem SameShape.setContent (h : SameShape d d') (loc : Location) (content : ByteArray) :
    SameShape d (d'.setContent loc content) :=
  ⟨(kind?_setContent d' loc content).trans h.kind, h.here⟩

theorem SameShape.resolve_eq (h : SameShape d d') (p : Path) : d'.resolve p = d.resolve p := by
  unfold resolve locate
  rw [h.kind, h.here]

/-- Besides the shape, what the path leads to is the same on both disks. -/
structure Agree (d d' : Disk) (p : Path) : Prop extends SameShape d d' where
  entry : ∀ loc, d.resolve p = .ok loc → d'.entryAt? loc = d.entryAt? loc

theorem Agree.refl (d : Disk) (p : Path) : Agree d d p := ⟨.refl d, fun _ _ => rfl⟩

theorem Agree.readFile_eq (h : Agree d d' p) : d'.readFile p = d.readFile p := by
  unfold readFile
  rw [h.toSameShape.resolve_eq]
  cases hr : d.resolve p with
  | error e => rfl
  | ok loc => simp only [h.entry loc hr]

theorem Agree.readBytes_eq (h : Agree d d' p) : d'.readBytes p = d.readBytes p := by
  rw [readBytes, h.readFile_eq, readBytes]

theorem Agree.readText_eq (h : Agree d d' p) : d'.readText p = d.readText p := by
  rw [readText, h.readBytes_eq, readText]

/-- The content of a file is not what another path leads to. -/
theorem Agree.setContent (h : Agree d d' p) {loc : Location} (content : ByteArray)
    (hne : d.resolve p ≠ .ok loc) : Agree d (d'.setContent loc content) p := by
  refine ⟨h.toSameShape.setContent loc content, fun loc' hloc' => ?_⟩
  have : loc' ≠ loc := fun e => hne (e ▸ hloc')
  rw [entryAt?_setContent, if_neg this, h.entry loc' hloc']

theorem readFile_eq_ok {loc : Location} {bytes : ByteArray} (h : d.readFile p = .ok (loc, bytes)) :
    d.resolve p = .ok loc ∧
      ((∃ x, d.entryAt? loc = some (.file bytes x)) ∨
        d.entryAt? loc = some .nullDevice ∧ bytes = .empty) := by
  unfold readFile at h
  cases hr : d.resolve p with
  | error e => simp [hr] at h
  | ok loc' =>
    simp only [hr] at h
    split at h
    · rename_i content x he
      cases h
      exact ⟨rfl, .inl ⟨x, he⟩⟩
    · rename_i he
      cases h
      exact ⟨rfl, .inr ⟨he, rfl⟩⟩
    · cases h

theorem readFile_of_file {loc : Location} {bytes : ByteArray} {x : Bool}
    (hloc : d.resolve p = .ok loc) (he : d.entryAt? loc = some (.file bytes x)) :
    d.readFile p = .ok (loc, bytes) := by
  simp only [readFile, hloc, he]

theorem readBytes_of_file {loc : Location} {bytes : ByteArray} {x : Bool}
    (hloc : d.resolve p = .ok loc) (he : d.entryAt? loc = some (.file bytes x)) :
    d.readBytes p = .ok bytes := by
  simp [readBytes, readFile, hloc, he, Except.map]

theorem readText_of_file {loc : Location} {bytes : ByteArray} {x : Bool}
    (hloc : d.resolve p = .ok loc) (he : d.entryAt? loc = some (.file bytes x)) :
    d.readText p = match Utf8.decode? bytes with
      | some text => .ok text
      | none => .error .notText := by
  cases ht : Utf8.decode? bytes <;> simp [readText, readBytes_of_file hloc he, ht]

/-! ## A disk with one file -/

/-- A disk with a text as its only file. -/
def single (content : String) : Disk where
  entries := [(["a.js"], .file (Utf8.encode content) false)]

theorem resolve_single (content : String) : (single content).resolve ⟨"/a.js"⟩ = .ok ["a.js"] := by
  simp only [resolve, locate]
  simp [walk, piecesOf, Text.pieces, startOf, Path.isAbsolute, Component.ofPiece?, kind?,
    entryAt?, single, Entry.kind]
  rfl

/-- Nothing is a file on a disk without entries. -/
theorem isFile_empty (p : Path) : ({} : Disk).isFile p = false := by
  rw [isFile, stat?]
  cases ({} : Disk).resolve p with
  | error why => rfl
  | ok loc =>
    simp only [entryAt?]
    split <;> simp_all

end BulkSuppress.Disk
