import Switchboard.Proofs.Records.History

/-!
# Two ways to write an entity

An entity can be written as it is, so that the store extracts its columns and checks them, or as
the record that the specification makes of it.  The first way checks twice, before there is a
record and when it is written.  The second checks once.

Both ways come to the same (`writeEntity_agrees`): they fail for the same entities with the same
failure, or behind a poisoned lock, or they panic alike, and they leave the same store behind.
Only the log tells them apart, and only where the columns do not conform: a record that is
rejected is reported, and an entity is turned down before there is a record.

Whoever writes through a handle uses the same five operations of another repository, with
writing an entity defined anew from them.  That makes no difference either
(`Repository.through_writeEntity`).  It rests on the law of handles that to set what is there
changes nothing, for the entity may be turned down before the store is asked.
-/

namespace Switchboard.Records

/-- An entity may be written through a handle, or by the repository that it points to. -/
theorem Repository.through_writeEntity {ω τ ι σ ρ : Type} (r : Repository τ ι σ ρ)
    (h : Handle ω τ) (e : Entity ι σ) (payload : ρ) :
    (r.through h).writeEntity e payload = h.lift (r.writeEntity e payload) := by
  funext w
  rw [writeEntity, Handle.lift, writeEntity]
  dsimp only [through]
  cases (r.specification (h.get w)).checkedValuesIn e with
  | error err => exact congrArg _ (h.set_get w).symm
  | ok columns => rfl

namespace RecordStore

variable {ι σ ρ α : Type}

def unlogged (s : RecordStore ι σ ρ) : RecordStore ι σ ρ := { s with log := [] }

/-- What an action comes to, apart from the log: its answer or its panic, and the store that it
leaves behind. -/
def apartFromLog :
    EStateM.Result Panic (RecordStore ι σ ρ) α → EStateM.Result Panic (RecordStore ι σ ρ) α
  | .ok a s => .ok a s.unlogged
  | .error p s => .error p s.unlogged

variable [DecidableEq ι]

/-- To write an entity and to write the record that the specification makes of it come to the
same, apart from the log.  The log differs only where the columns do not conform.  Through a
handle, both do to the store that it points to what they do directly. -/
theorem writeEntity_agrees (f : Faults ι ρ) (e : Entity ι σ) (payload : ρ) :
    (∀ s : RecordStore ι σ ρ,
      let record := s.spec.record e payload
      apartFromLog (writeEntity f e payload s) = apartFromLog (write f record s) ∧
        (writeEntity f e payload s = write f record s ∨
          ∃ err, s.spec.checkColumns record.columns = .error err ∧
            writeEntity f e payload s = .ok (.error (.invalidRecord err)) s ∧
            write f record s = .ok (.error (.invalidRecord err)) (s.reject err))) ∧
      ∀ {ω : Type} (h : Handle ω (RecordStore ι σ ρ)) (w : ω),
        let record := (h.get w).spec.record e payload
        let shared := (repository f).through h
        shared.writeEntity e payload w = h.lift (writeEntity f e payload) w ∧
          shared.write record w = h.lift (write f record) w := by
  refine ⟨fun s => ?_, fun h w => ⟨?_, rfl⟩⟩
  · intro record
    rcases writeEntity_cases f e payload s with ⟨err, hcheck, hentity⟩ | hsame
    · have hrecord : write f record s = .ok (.error (.invalidRecord err)) (s.reject err) :=
        write_of_unfit hcheck
      refine ⟨?_, .inr ⟨err, hcheck, hentity, hrecord⟩⟩
      rw [hentity, hrecord]
      rfl
    · exact ⟨congrArg apartFromLog hsame, .inl hsame⟩
  · rw [(repository f).through_writeEntity h e payload]
    rfl

end RecordStore

end Switchboard.Records
