import RealModeMonitor.Proofs.Vm.Signals

/-!
# Sessions whose devices are not called

What happens to a session beside the calls of its devices leaves the channels of its timers as they
are, but for who watches them (`SameChannels`). It leaves the controllers as they are as well
(`Rests`), unless a line is raised or the guest is made an offer.
-/

namespace RealModeMonitor.Vm

open Traced

variable {v v' v'' : Vm} {id place : DeviceId} {i : Fin 3} {ch : Channel} {t : IntervalTimer}
  {d : Device}

/-- The channels are as they were, but for who watches them. -/
def SameChannels (v v' : Vm) : Prop :=
  ∀ place i ch, v.channel? place i = some ch →
    ∃ watcher, v'.channel? place i = some { ch with watcher }

theorem SameChannels.shots (h : v.SameChannels v') (place : DeviceId) (i : Fin 3) :
    v'.shots place i ≤ v.shots place i := by
  cases hch : v.channel? place i with
  | some ch =>
    obtain ⟨watcher, hch'⟩ := h place i ch hch
    rw [Vm.shots, hch', Vm.shots, hch]
    exact Nat.le_refl _
  | none =>
    -- What came to the place has one shot at most.
    have hone : ∀ o : Option Channel, (o.map Channel.shots).getD 1 ≤ 1 := by
      rintro (_ | ch)
      · exact Nat.le_refl 1
      · rw [Option.map_some, Option.getD_some, Channel.shots]
        split <;> decide
    rw [Vm.shots, Vm.shots, hch]
    exact hone _

theorem sameChannels_of_timers (h : ∀ id, v'.timerAt? id = v.timerAt? id) : v.SameChannels v' := by
  intro place i ch hch
  exact ⟨ch.watcher, by rw [channel?, h]; exact hch⟩

theorem sameChannels_raise (v : Vm) (line : UInt8) : v.SameChannels (v.raise line).val.2 := by
  refine sameChannels_of_timers fun id => ?_
  unfold raise
  split
  · rfl
  next place c hcontroller => exact timerAt?_exchange hcontroller _ _ id

theorem sameChannels_deliver (v : Vm) (guest : Guest) :
    v.SameChannels { v with guest }.deliver.val.2 := by
  refine sameChannels_of_timers fun id => ?_
  unfold deliver
  split
  · rfl
  next place c hcontroller =>
    exact timerAt?_exchange (v := { v with guest }) hcontroller _ _ id

/-- The controllers are as they were as well. -/
structure Rests (v v' : Vm) : Prop where
  controllers : ∀ id c, v.device? id = some (.pic c) → v'.device? id = some (.pic c)
  channels : v.SameChannels v'

theorem rests_of_devices (h : ∀ id d, v.device? id = some d → v'.device? id = some d) :
    v.Rests v' where
  controllers id c := h id (.pic c)
  channels place i ch hch := by
    obtain ⟨t, ht, rfl⟩ := Option.map_eq_some_iff.1 hch
    refine ⟨(t.channel i).watcher, ?_⟩
    rw [channel?, timerAt?, h place _ (device?_of_timerAt? ht)]
    rfl

theorem rests_of_eq (h : v'.devices = v.devices) : v.Rests v' :=
  rests_of_devices fun id d hd => by rwa [device?, h]

theorem Rests.refl (v : Vm) : v.Rests v := rests_of_eq rfl

theorem Rests.trans (h : v.Rests v') (h' : v'.Rests v'') : v.Rests v'' where
  controllers id c hc := h'.controllers id c (h.controllers id c hc)
  channels place i ch hch := by
    obtain ⟨_, hch'⟩ := h.channels place i ch hch
    obtain ⟨watcher, hch''⟩ := h'.channels place i _ hch'
    exact ⟨watcher, hch''⟩

theorem device?_attach_of {d' : Device} (h : v.device? id = some d') (d : Device) :
    (v.attach d).2.device? id = some d' := by
  show ((v.devices ++ [some d])[id]?).join = some d'
  rw [List.getElem?_append_left (lt_of_device? h)]
  exact h

theorem rests_attach (v : Vm) (d : Device) : v.Rests (v.attach d).2 :=
  rests_of_devices fun _ _ hd => device?_attach_of hd d

theorem rests_retract (v : Vm) (d : Device) : v.Rests ((v.attach d).2.detach (v.attach d).1) :=
  rests_of_devices fun id d' hd' => by
    have hne : id ≠ v.devices.length := Nat.ne_of_lt (lt_of_device? hd')
    exact (device?_setDevice_other (v := (v.attach d).2) hne none).trans (device?_attach_of hd' d)

/-- A device that is neither a controller nor a timer takes another state. -/
theorem rests_setDevice {d' : Device} (h : v.device? id = some d) (hd : d.timer? = none)
    (hcontroller : d.controller? = none) : v.Rests (v.setDevice id (some d')) where
  controllers other c hc := by
    have hne : other ≠ id := by
      rintro rfl
      rw [h] at hc
      cases hc
      cases hcontroller
    rw [device?_setDevice_other hne, hc]
  channels place i ch hch := by
    obtain ⟨t, ht, rfl⟩ := Option.map_eq_some_iff.1 hch
    have hne : place ≠ id := by
      rintro rfl
      rw [device?_of_timerAt? ht] at h
      cases h
      cases hd
    refine ⟨(t.channel i).watcher, ?_⟩
    rw [channel?, timerAt?, device?_setDevice_other hne, device?_of_timerAt? ht]
    rfl

/-- A timer is watched by somebody else. -/
theorem rests_watch {t' : IntervalTimer} {n : UInt8} {watcher : Option String}
    (h : v.timerAt? id = some t) (hwatch : t.watch n watcher = .ok t') :
    v.Rests (v.setDevice id (some (.pit t'))) where
  controllers other c hc := by
    have hne : other ≠ id := by
      rintro rfl
      rw [device?_of_timerAt? h] at hc
      cases hc
    rw [device?_setDevice_other hne, hc]
  channels place i ch hch := by
    obtain ⟨t₀, ht₀, rfl⟩ := Option.map_eq_some_iff.1 hch
    rw [channel?, timerAt?_setDevice]
    split
    next hplace =>
      obtain rfl : t = t₀ := Option.some.inj (h.symm.trans (hplace.1 ▸ ht₀))
      have hchannel : t'.channel i =
          if IntervalTimer.channelOf? n = some i then { t.channel i with watcher }
          else t.channel i := by
        have h := t.channel_watch n watcher i
        rwa [hwatch] at h
      show ∃ watcher, some (t'.channel i) = some { t.channel i with watcher }
      rw [hchannel]
      split
      · exact ⟨watcher, rfl⟩
      · exact ⟨(t.channel i).watcher, rfl⟩
    next hplace => exact ⟨(t₀.channel i).watcher, by rw [ht₀]; rfl⟩

end RealModeMonitor.Vm
