import ChangeRouting.Proofs.Work
import ChangeRouting.Service.Basic

/-!
# ChangeRouting.Proofs.Config.Check

What an accepted configuration guarantees.

* `nodup_channels` — no two channels share an id;
* `check_arranged` — the order of its channels does not matter;
* `setUp_eq_ok` — a service is set up exactly if the configuration is accepted and all routers resolve.
-/

namespace ChangeRouting

theorem demand_iff {holds : Prop} [Decidable holds] {fault : Fault} :
    demand holds fault = .ok () ↔ holds := by
  by_cases hp : holds
  · rw [demand, if_pos hp]
    exact ⟨fun _ => hp, fun _ => rfl⟩
  · rw [demand, if_neg hp]
    simp only [reduceCtorEq, hp]

/-- Two checks are passed if each is. -/
theorem both_eq_ok {first next : Except Fault Unit} :
    (first >>= fun _ => next) = .ok () ↔ first = .ok () ∧ next = .ok () := by
  rw [except_bind_eq_ok]
  exact ⟨fun ⟨_, hfirst, hnext⟩ => ⟨hfirst, hnext⟩, fun ⟨hfirst, hnext⟩ => ⟨(), hfirst, hnext⟩⟩

/-- A channel is checked for itself, and against the ids of those before it. -/
theorem checkChannel_iff {seen : List String} {channel : Channel} :
    checkChannel seen channel = .ok () ↔ checkChannel [] channel = .ok () ∧ channel.id ∉ seen := by
  simp only [checkChannel, both_eq_ok, demand_iff, List.not_mem_nil, not_false_eq_true, true_and]
  constructor
  · rintro ⟨hid, hnew, hrest⟩
    exact ⟨⟨hid, hrest⟩, hnew⟩
  · rintro ⟨⟨hid, hrest⟩, hnew⟩
    exact ⟨hid, hnew, hrest⟩

theorem checkChannels_iff {seen : List String} {channels : List Channel} :
    checkChannels seen channels = .ok () ↔
      (∀ channel ∈ channels, checkChannel [] channel = .ok () ∧ channel.id ∉ seen) ∧
        (channels.map Channel.id).Nodup := by
  induction channels generalizing seen with
  | nil => simp [checkChannels]
  | cons channel channels ih =>
      rw [checkChannels, both_eq_ok, ih, List.forall_mem_cons, List.map_cons, List.nodup_cons,
        checkChannel_iff]
      simp only [List.mem_cons, List.mem_map, not_or]
      constructor
      · rintro ⟨hfirst, hrest, hnodup⟩
        refine ⟨⟨hfirst, fun other hother => ⟨(hrest other hother).1, (hrest other hother).2.2⟩⟩, ?_, hnodup⟩
        rintro ⟨other, hother, heq⟩
        exact (hrest other hother).2.1 heq
      · rintro ⟨⟨hfirst, hrest⟩, hnew, hnodup⟩
        refine ⟨hfirst, fun other hother => ⟨(hrest other hother).1, ?_, (hrest other hother).2⟩, hnodup⟩
        exact fun heq => hnew ⟨other, hother, heq⟩

/-- No two channels of an accepted configuration share an id. -/
theorem nodup_channels {config : Configuration} (h : config.check = .ok ()) :
    (config.channels.map Channel.id).Nodup := by
  simp only [Configuration.check, both_eq_ok] at h
  obtain ⟨-, -, -, -, -, hchannels, -⟩ := h
  exact (checkChannels_iff.1 hchannels).2

/-- A configuration stays accepted when its channels are listed in another order. -/
theorem check_arranged {config : Configuration} {channels : List Channel}
    (hperm : channels.Perm config.channels) (h : config.check = .ok ()) :
    Configuration.check { config with channels := channels } = .ok () := by
  simp only [Configuration.check, both_eq_ok] at h ⊢
  obtain ⟨hnode, hgroup, hstore, hhost, hwindow, hchannels, hrouters, htriggers⟩ := h
  refine ⟨hnode, hgroup, hstore, hhost, hwindow, ?_, hrouters, ?_⟩
  · rw [checkChannels_iff] at hchannels ⊢
    refine ⟨fun channel hchannel => hchannels.1 channel (hperm.mem_iff.1 hchannel), ?_⟩
    exact (hperm.map Channel.id).nodup_iff.2 hchannels.2
  · have hsame : checkTrigger (channels.map Channel.id) (config.routers.map Router.id) =
        checkTrigger (config.channels.map Channel.id) (config.routers.map Router.id) := by
      funext trigger
      have hmem : trigger.channel ∈ channels.map Channel.id ↔
          trigger.channel ∈ config.channels.map Channel.id := (hperm.map Channel.id).mem_iff
      simp only [checkTrigger, demand, hmem]
    rw [hsame]
    exact htriggers

/-- A service is set up if the configuration is accepted and all of its routers resolve. -/
theorem setUp_eq_ok {config : Configuration} {registry : Registry} {service : Service} :
    Service.setUp config registry = .ok service ↔ config.check = .ok () ∧
      ∃ resolved, (config.routers.mapM fun router =>
          return ResolvedRouter.mk router (← registry.resolve router) : Except Fault _) = .ok resolved ∧
        service = ⟨config, registry, config.triggers.foldl (fun attached trigger => Service.assign
          trigger.id (Service.concerning config.node.group resolved trigger) attached) [], []⟩ := by
  rw [Service.setUp, except_bind_eq_ok]
  constructor
  · rintro ⟨_, hcheck, h⟩
    obtain ⟨resolved, hresolved, h⟩ := except_bind_eq_ok.1 h
    cases h
    exact ⟨hcheck, resolved, hresolved, rfl⟩
  · rintro ⟨hcheck, resolved, hresolved, rfl⟩
    exact ⟨(), hcheck, except_bind_eq_ok.2 ⟨resolved, hresolved, rfl⟩⟩

end ChangeRouting
