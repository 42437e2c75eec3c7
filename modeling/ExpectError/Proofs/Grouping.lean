import ExpectError.Proofs.Interleave

/-!
# Diagnostics by file and line

What the plans of a list of diagnostics hold, through one view of them: the messages at a line of a
file. Adding a diagnostic adds its message at the end of that view and nowhere else
(`messagesAt_addDiagnostic`), so the view of the plans is the view of the list
(`messagesAt_ofDiagnostics`). The plans are also well formed: one for each path, the lines of each
descending, and no site without a message (`ofDiagnostics_grouped`).
-/

namespace ExpectError

namespace EditPlan

/-- The messages that sites hold for a line. -/
def siteMessages (sites : List Site) (line : Int) : List String :=
  (sites.filter fun s => s.line = line).flatMap Site.messages

/-- The messages that plans hold for a line of a file. -/
def messagesAt (plans : List EditPlan) (path : String) (line : Int) : List String :=
  (plans.filter fun p => p.path = path).flatMap fun p => siteMessages p.sites line

/-- Plans as grouping makes them. -/
structure Grouped (plans : List EditPlan) : Prop where
  /-- No two plans are for the same path. -/
  paths : (plans.map EditPlan.path).Nodup
  /-- The lines of a plan descend. -/
  descending : ∀ plan ∈ plans, Descending Site.line plan.sites
  /-- No plan is without a site. -/
  sites : ∀ plan ∈ plans, plan.sites ≠ []
  /-- No site is without a message. -/
  messages : ∀ plan ∈ plans, ∀ site ∈ plan.sites, site.messages ≠ []

/-! ## One message -/

theorem mem_addMessage {line : Int} {message : String} {sites : List Site} {site : Site}
    (h : site ∈ addMessage line message sites) : site.line = line ∨ site ∈ sites := by
  induction sites with
  | nil =>
    rw [addMessage, List.mem_singleton] at h
    exact Or.inl (by rw [h])
  | cons first sites ih =>
    rw [addMessage] at h
    split_ifs at h with heq hlt
    · rcases List.mem_cons.mp h with rfl | h
      · exact Or.inl rfl
      · exact Or.inr (List.mem_cons_of_mem _ h)
    · rcases List.mem_cons.mp h with rfl | h
      · exact Or.inl rfl
      · exact Or.inr h
    · rcases List.mem_cons.mp h with rfl | h
      · exact Or.inr List.mem_cons_self
      · exact (ih h).imp_right (List.mem_cons_of_mem _)

theorem addMessage_ne_nil (line : Int) (message : String) (sites : List Site) :
    addMessage line message sites ≠ [] := by
  cases sites with
  | nil => simp [addMessage]
  | cons first sites =>
    rw [addMessage]
    split_ifs <;> simp

theorem addMessage_descending {line : Int} {message : String} {sites : List Site}
    (h : Descending Site.line sites) : Descending Site.line (addMessage line message sites) := by
  induction sites with
  | nil => exact List.pairwise_singleton _ _
  | cons first sites ih =>
    obtain ⟨hfirst, hrest⟩ := List.pairwise_cons.mp h
    rw [addMessage]
    split_ifs with heq hlt
    · exact List.pairwise_cons.mpr ⟨fun s hs => heq ▸ hfirst s hs, hrest⟩
    · refine List.pairwise_cons.mpr ⟨fun s hs => ?_, h⟩
      rcases List.mem_cons.mp hs with rfl | hs
      · exact hlt
      · exact lt_trans (hfirst s hs) hlt
    · refine List.pairwise_cons.mpr ⟨fun s hs => ?_, ih hrest⟩
      rcases mem_addMessage hs with hline | hs
      · omega
      · exact hfirst s hs

theorem addMessage_messages_ne_nil {line : Int} {message : String} {sites : List Site}
    (h : ∀ site ∈ sites, site.messages ≠ []) :
    ∀ site ∈ addMessage line message sites, site.messages ≠ [] := by
  induction sites with
  | nil => simp [addMessage]
  | cons first sites ih =>
    have hrest := ih fun site hsite => h site (List.mem_cons_of_mem _ hsite)
    rw [addMessage]
    split_ifs with heq hlt
    · intro site hsite
      rcases List.mem_cons.mp hsite with rfl | hsite
      · simp
      · exact h site (List.mem_cons_of_mem _ hsite)
    · intro site hsite
      rcases List.mem_cons.mp hsite with rfl | hsite
      · simp
      · exact h site hsite
    · intro site hsite
      rcases List.mem_cons.mp hsite with rfl | hsite
      · exact h _ List.mem_cons_self
      · exact hrest site hsite

theorem siteMessages_eq_nil {sites : List Site} {line : Int} (h : ∀ s ∈ sites, s.line ≠ line) :
    siteMessages sites line = [] := by
  have hnone : (sites.filter fun s => s.line = line) = [] := by
    rw [List.filter_eq_nil_iff]
    intro s hs
    simpa using h s hs
  rw [siteMessages, hnone, List.flatMap_nil]

theorem siteMessages_cons (site : Site) (sites : List Site) (line : Int) :
    siteMessages (site :: sites) line =
      (if site.line = line then site.messages else []) ++ siteMessages sites line := by
  unfold siteMessages
  by_cases h : site.line = line
  · rw [List.filter_cons_of_pos (by simpa using h), List.flatMap_cons, if_pos h]
  · rw [List.filter_cons_of_neg (by simpa using h), if_neg h, List.nil_append]

theorem siteMessages_addMessage {line : Int} {message : String} {sites : List Site}
    (h : Descending Site.line sites) (n : Int) :
    siteMessages (addMessage line message sites) n =
      siteMessages sites n ++ if line = n then [message] else [] := by
  induction sites with
  | nil =>
    rw [addMessage, siteMessages_cons]
    simp [siteMessages]
  | cons first sites ih =>
    obtain ⟨hfirst, hrest⟩ := List.pairwise_cons.mp h
    by_cases heq : first.line = line
    · -- the site of the line is the only one there
      rw [addMessage, if_pos heq, siteMessages_cons, siteMessages_cons]
      by_cases hn : line = n
      · have hnil : siteMessages sites n = [] :=
          siteMessages_eq_nil fun s hs => by have := hfirst s hs; omega
        rw [hnil, if_pos hn, if_pos hn, if_pos (by omega), List.append_nil, List.append_nil]
      · rw [if_neg hn, if_neg hn, if_neg (by omega), List.append_nil]
    · by_cases hlt : first.line < line
      · rw [addMessage, if_neg heq, if_pos hlt, siteMessages_cons]
        by_cases hn : line = n
        · have hnil : siteMessages (first :: sites) n = [] := by
            refine siteMessages_eq_nil fun s hs => ?_
            rcases List.mem_cons.mp hs with rfl | hs
            · omega
            · have := hfirst s hs
              omega
          rw [hnil, if_pos hn, List.append_nil, List.nil_append]
        · rw [if_neg hn, List.append_nil, List.nil_append]
      · rw [addMessage, if_neg heq, if_neg hlt, siteMessages_cons, siteMessages_cons, ih hrest,
          List.append_assoc]

/-! ## One diagnostic -/

theorem mem_addDiagnostic_path {d : Diagnostic} {plans : List EditPlan} {plan : EditPlan}
    (h : plan ∈ addDiagnostic d plans) :
    plan.path = d.path ∨ plan ∈ plans := by
  induction plans with
  | nil =>
    rw [addDiagnostic, List.mem_singleton] at h
    exact Or.inl (by rw [h])
  | cons first plans ih =>
    rw [addDiagnostic] at h
    split_ifs at h with heq
    · rcases List.mem_cons.mp h with rfl | h
      · exact Or.inl heq
      · exact Or.inr (List.mem_cons_of_mem _ h)
    · rcases List.mem_cons.mp h with rfl | h
      · exact Or.inr List.mem_cons_self
      · exact (ih h).imp_right (List.mem_cons_of_mem _)

theorem Grouped.tail {plan : EditPlan} {plans : List EditPlan} (h : Grouped (plan :: plans)) :
    Grouped plans where
  paths := (List.nodup_cons.mp h.paths).2
  descending p hp := h.descending p (List.mem_cons_of_mem _ hp)
  sites p hp := h.sites p (List.mem_cons_of_mem _ hp)
  messages p hp := h.messages p (List.mem_cons_of_mem _ hp)

theorem Grouped.cons {plan : EditPlan} {plans : List EditPlan} (h : Grouped plans)
    (hpath : ∀ p ∈ plans, p.path ≠ plan.path) (hdesc : Descending Site.line plan.sites)
    (hsites : plan.sites ≠ []) (hmessages : ∀ site ∈ plan.sites, site.messages ≠ []) :
    Grouped (plan :: plans) where
  paths := by
    refine List.nodup_cons.mpr ⟨fun hmem => ?_, h.paths⟩
    obtain ⟨p, hp, heq⟩ := List.mem_map.mp hmem
    exact hpath p hp heq
  descending p hp := by
    rcases List.mem_cons.mp hp with rfl | hp
    · exact hdesc
    · exact h.descending p hp
  sites p hp := by
    rcases List.mem_cons.mp hp with rfl | hp
    · exact hsites
    · exact h.sites p hp
  messages p hp := by
    rcases List.mem_cons.mp hp with rfl | hp
    · exact hmessages
    · exact h.messages p hp

theorem Grouped.head_path_ne {plan : EditPlan} {plans : List EditPlan}
    (h : Grouped (plan :: plans)) : ∀ p ∈ plans, p.path ≠ plan.path := by
  intro p hp heq
  exact (List.nodup_cons.mp h.paths).1 (List.mem_map.mpr ⟨p, hp, heq⟩)

theorem Grouped.addDiagnostic {d : Diagnostic} {plans : List EditPlan} (h : Grouped plans) :
    Grouped (addDiagnostic d plans) := by
  induction plans with
  | nil =>
    refine Grouped.cons h (by simp) (List.pairwise_singleton _ _) (List.cons_ne_nil _ _) ?_
    intro site hsite
    rw [List.mem_singleton] at hsite
    simp [hsite]
  | cons first plans ih =>
    have hdesc := h.descending first List.mem_cons_self
    have hmessages := h.messages first List.mem_cons_self
    rw [EditPlan.addDiagnostic]
    split_ifs with heq
    · exact h.tail.cons h.head_path_ne (addMessage_descending hdesc) (addMessage_ne_nil _ _ _)
        (addMessage_messages_ne_nil hmessages)
    · refine (ih h.tail).cons (fun p hp => ?_) hdesc (h.sites first List.mem_cons_self) hmessages
      rcases mem_addDiagnostic_path hp with hpath | hp
      · exact fun hsame => heq (hsame.symm.trans hpath)
      · exact h.head_path_ne p hp

theorem messagesAt_cons (plan : EditPlan) (plans : List EditPlan) (path : String) (line : Int) :
    messagesAt (plan :: plans) path line =
      (if plan.path = path then siteMessages plan.sites line else []) ++
        messagesAt plans path line := by
  unfold messagesAt
  by_cases h : plan.path = path
  · rw [List.filter_cons_of_pos (by simpa using h), List.flatMap_cons, if_pos h]
  · rw [List.filter_cons_of_neg (by simpa using h), if_neg h, List.nil_append]

theorem messagesAt_eq_nil {plans : List EditPlan} {path : String} {line : Int}
    (h : ∀ p ∈ plans, p.path ≠ path) : messagesAt plans path line = [] := by
  have hnone : (plans.filter fun p => p.path = path) = [] := by
    rw [List.filter_eq_nil_iff]
    intro p hp
    simpa using h p hp
  rw [messagesAt, hnone, List.flatMap_nil]

theorem messagesAt_addDiagnostic {d : Diagnostic} {plans : List EditPlan} (h : Grouped plans)
    (path : String) (line : Int) :
    messagesAt (addDiagnostic d plans) path line =
      messagesAt plans path line ++ if d.path = path ∧ d.line = line then [d.message] else [] := by
  induction plans with
  | nil =>
    rw [EditPlan.addDiagnostic, messagesAt_cons]
    by_cases hpath : d.path = path
    · by_cases hline : d.line = line <;> simp [messagesAt, siteMessages, hpath, hline]
    · simp [messagesAt, hpath]
  | cons first plans ih =>
    rw [EditPlan.addDiagnostic]
    by_cases heq : first.path = d.path
    · rw [if_pos heq, messagesAt_cons, messagesAt_cons,
        siteMessages_addMessage (h.descending first List.mem_cons_self)]
      by_cases hpath : first.path = path
      · -- the plan of the path is the only one for it
        have hnil : messagesAt plans path line = [] :=
          messagesAt_eq_nil fun p hp => hpath ▸ h.head_path_ne p hp
        have hd : d.path = path := heq.symm.trans hpath
        simp [hnil, hpath, hd]
      · have hd : d.path ≠ path := fun hd => hpath (heq.trans hd)
        simp [hpath, hd]
    · rw [if_neg heq, messagesAt_cons, messagesAt_cons, ih h.tail, List.append_assoc]

/-! ## All diagnostics -/

theorem foldl_addDiagnostic (ds : List Diagnostic) {plans : List EditPlan} (h : Grouped plans) :
    Grouped (ds.foldl (fun plans d => addDiagnostic d plans) plans) ∧
      ∀ path line,
        messagesAt (ds.foldl (fun plans d => addDiagnostic d plans) plans) path line =
          messagesAt plans path line ++
            (ds.filter fun d => d.path = path ∧ d.line = line).map Diagnostic.message := by
  induction ds generalizing plans with
  | nil => exact ⟨h, by simp⟩
  | cons d ds ih =>
    obtain ⟨hgrouped, hmessages⟩ := ih (h.addDiagnostic (d := d))
    refine ⟨hgrouped, fun path line => ?_⟩
    rw [List.foldl_cons, hmessages, messagesAt_addDiagnostic h, List.append_assoc]
    by_cases hd : d.path = path ∧ d.line = line
    · rw [List.filter_cons_of_pos (by simpa using hd), if_pos hd]
      rfl
    · rw [List.filter_cons_of_neg (by simpa using hd), if_neg hd]
      rfl

theorem grouped_nil : Grouped [] where
  paths := List.nodup_nil
  descending := by simp
  sites := by simp
  messages := by simp

theorem ofDiagnostics_grouped (ds : List Diagnostic) : Grouped (ofDiagnostics ds) :=
  (foldl_addDiagnostic ds grouped_nil).1

theorem messagesAt_ofDiagnostics (ds : List Diagnostic) (path : String) (line : Int) :
    messagesAt (ofDiagnostics ds) path line =
      (ds.filter fun d => d.path = path ∧ d.line = line).map Diagnostic.message :=
  (foldl_addDiagnostic ds grouped_nil).2 path line

theorem mem_messagesAt_iff {plans : List EditPlan} {path : String} {line : Int}
    {message : String} :
    message ∈ messagesAt plans path line ↔
      ∃ plan ∈ plans, plan.path = path ∧
        ∃ site ∈ plan.sites, site.line = line ∧ message ∈ site.messages := by
  simp only [messagesAt, siteMessages, List.mem_flatMap, List.mem_filter, decide_eq_true_eq]
  constructor
  · rintro ⟨plan, ⟨hplan, hpath⟩, site, ⟨hsite, hline⟩, hmessage⟩
    exact ⟨plan, hplan, hpath, site, hsite, hline, hmessage⟩
  · rintro ⟨plan, hplan, hpath, site, hsite, hline, hmessage⟩
    exact ⟨plan, ⟨hplan, hpath⟩, site, ⟨hsite, hline⟩, hmessage⟩

theorem exists_site {ds : List Diagnostic} {d : Diagnostic} (hd : d ∈ ds) :
    ∃ plan ∈ ofDiagnostics ds, plan.path = d.path ∧
      ∃ site ∈ plan.sites, site.line = d.line ∧ d.message ∈ site.messages := by
  rw [← mem_messagesAt_iff, messagesAt_ofDiagnostics]
  exact List.mem_map.mpr ⟨d, List.mem_filter.mpr ⟨hd, by simp⟩, rfl⟩

theorem filter_key_eq {α κ : Type} [DecidableEq κ] {key : α → κ} {items : List α} {item : α}
    (hnodup : (items.map key).Nodup) (hmem : item ∈ items) :
    (items.filter fun other => key other = key item) = [item] := by
  induction items with
  | nil => simp at hmem
  | cons first items ih =>
    rw [List.map_cons, List.nodup_cons, List.mem_map, not_exists] at hnodup
    rcases List.mem_cons.mp hmem with rfl | hmem
    · have hnone : (items.filter fun other => key other = key item) = [] := by
        rw [List.filter_eq_nil_iff]
        intro other hother heq
        exact hnodup.1 other ⟨hother, of_decide_eq_true heq⟩
      rw [List.filter_cons_of_pos (by simp), hnone]
    · have hne : key first ≠ key item := fun heq => hnodup.1 item ⟨hmem, heq.symm⟩
      rw [List.filter_cons_of_neg (by simpa using hne), ih hnodup.2 hmem]

theorem nodup_lines {sites : List Site} (h : Descending Site.line sites) :
    (sites.map Site.line).Nodup := by
  rw [List.Nodup, List.pairwise_map]
  exact h.imp fun hlt => hlt.ne'

/-- **The messages of a site** are those of the diagnostics at its line of its file, in order. -/
theorem site_messages {ds : List Diagnostic} {plan : EditPlan} {site : Site}
    (hplan : plan ∈ ofDiagnostics ds) (hsite : site ∈ plan.sites) :
    site.messages =
      (ds.filter fun d => d.path = plan.path ∧ d.line = site.line).map Diagnostic.message := by
  have hgrouped := ofDiagnostics_grouped ds
  rw [← messagesAt_ofDiagnostics, messagesAt, filter_key_eq hgrouped.paths hplan,
    List.flatMap_singleton, siteMessages,
    filter_key_eq (nodup_lines (hgrouped.descending plan hplan)) hsite, List.flatMap_singleton]

theorem exists_diagnostic_of_site {ds : List Diagnostic} {plan : EditPlan} {site : Site}
    (hplan : plan ∈ ofDiagnostics ds) (hsite : site ∈ plan.sites) :
    ∃ d ∈ ds, d.path = plan.path ∧ d.line = site.line := by
  obtain ⟨message, hmessage⟩ :=
    List.exists_mem_of_ne_nil _ ((ofDiagnostics_grouped ds).messages plan hplan site hsite)
  rw [site_messages hplan hsite] at hmessage
  obtain ⟨d, hd, -⟩ := List.mem_map.mp hmessage
  rw [List.mem_filter, decide_eq_true_eq] at hd
  exact ⟨d, hd⟩

theorem exists_diagnostic_of_plan {ds : List Diagnostic} {plan : EditPlan}
    (hplan : plan ∈ ofDiagnostics ds) : ∃ d ∈ ds, d.path = plan.path := by
  obtain ⟨site, hsite⟩ :=
    List.exists_mem_of_ne_nil _ ((ofDiagnostics_grouped ds).sites plan hplan)
  obtain ⟨d, hd, hpath, -⟩ := exists_diagnostic_of_site hplan hsite
  exact ⟨d, hd, hpath⟩

end EditPlan

end ExpectError
