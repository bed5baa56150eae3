import WidgetOutline.Proofs.Alignment.Aligned

namespace WidgetOutline

theorem align_idempotent {source out : String} {gutter : Nat}
    (aligned : align source gutter = .ok out) : align out gutter = .ok out := by
  obtain ⟨_, -, flush, -, stays, written⟩ := align_ok_dedent aligned
  rw [align_ok_iff, flush]
  exact ⟨_, stays, written.symm⟩

theorem align_idempotent_outdented :
    align "  été VBOX\r\n# note \r\n    b  LABEL(x\\)) # y\r\n  \r" 0 =
        .ok "été VBOX\n# note\n  b LABEL(x\\)) # y\n" ∧
      align "été VBOX\n# note\n  b LABEL(x\\)) # y\n" 0 =
        .ok "été VBOX\n# note\n  b LABEL(x\\)) # y\n" :=
  have first : align "  été VBOX\r\n# note \r\n    b  LABEL(x\\)) # y\r\n  \r" 0 =
      .ok "été VBOX\n# note\n  b LABEL(x\\)) # y\n" := by decide +kernel
  ⟨first, align_idempotent first⟩

end WidgetOutline
