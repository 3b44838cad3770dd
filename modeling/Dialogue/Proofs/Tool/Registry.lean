import Dialogue.Proofs.Text.ByteOrder
import Dialogue.Tool.Registry

set_option autoImplicit false

namespace Dialogue.ToolRegistry

def Ascending (tools : List Tool) : Prop :=
  tools.Pairwise fun first second => first.name < second.name

def lastNamed (tools : List Tool) (name : String) : Option Tool :=
  tools.reverse.find? fun tool => tool.name = name

theorem name_cases (tool other : Tool) :
    tool.name < other.name ∨ tool.name = other.name ∨ other.name < tool.name := by
  by_cases before : tool.name < other.name
  · exact .inl before
  · by_cases after : other.name < tool.name
    · exact .inr (.inr after)
    · exact .inr (.inl (String.le_antisymm after before))

variable (tool other : Tool) (rest : List Tool)

theorem insert_before (before : tool.name < other.name) :
    insert tool (other :: rest) = tool :: other :: rest := if_pos before

theorem insert_same (same : tool.name = other.name) :
    insert tool (other :: rest) = tool :: rest := by
  rw [insert, if_neg (same ▸ String.lt_irrefl _), if_pos same]

theorem insert_after (after : other.name < tool.name) :
    insert tool (other :: rest) = other :: insert tool rest := by
  rw [insert, if_neg (String.lt_asymm after), if_neg (String.ne_of_lt after).symm]

theorem insert_above (lower : String) (less : lower < tool.name)
    (above : ∀ other ∈ rest, lower < other.name) :
    ∀ other ∈ insert tool rest, lower < other.name := by
  induction rest with
  | nil => simpa [insert] using less
  | cons first rest ih =>
      have others := List.forall_mem_cons.mp above
      rcases name_cases tool first with before | same | after
      · rw [insert_before tool first rest before]
        exact List.forall_mem_cons.mpr ⟨less, above⟩
      · rw [insert_same tool first rest same]
        exact List.forall_mem_cons.mpr ⟨less, others.2⟩
      · rw [insert_after tool first rest after]
        exact List.forall_mem_cons.mpr ⟨others.1, ih others.2⟩

theorem insert_ascending (tools : List Tool) (ascending : Ascending tools) :
    Ascending (insert tool tools) := by
  induction tools with
  | nil => exact List.pairwise_singleton _ _
  | cons first rest ih =>
      obtain ⟨above, ordered⟩ := List.pairwise_cons.mp ascending
      rcases name_cases tool first with before | same | after
      · rw [insert_before tool first rest before]
        refine List.pairwise_cons.mpr ⟨List.forall_mem_cons.mpr ⟨before, ?_⟩, ascending⟩
        exact fun other member => String.lt_trans before (above other member)
      · rw [insert_same tool first rest same]
        exact List.pairwise_cons.mpr ⟨same ▸ above, ordered⟩
      · rw [insert_after tool first rest after]
        exact List.pairwise_cons.mpr ⟨insert_above tool rest _ after above, ih ordered⟩

theorem find_inserted (tools : List Tool) :
    (insert tool tools).find? (fun other => other.name = tool.name) = some tool := by
  induction tools with
  | nil => simp [insert]
  | cons first rest ih =>
      rcases name_cases tool first with before | same | after
      · rw [insert_before tool first rest before]
        exact List.find?_cons_of_pos (by simp)
      · rw [insert_same tool first rest same]
        exact List.find?_cons_of_pos (by simp)
      · rw [insert_after tool first rest after, List.find?_cons_of_neg
          (by simpa using String.ne_of_lt after)]
        exact ih

theorem find_other (tools : List Tool) (name : String) (different : tool.name ≠ name) :
    (insert tool tools).find? (fun other => other.name = name) =
      tools.find? fun other => other.name = name := by
  have unfound : ∀ later : List Tool, (tool :: later).find? (fun other => other.name = name) =
      later.find? fun other => other.name = name :=
    fun later => List.find?_cons_of_neg (by simpa using different)
  induction tools with
  | nil => exact unfound []
  | cons first rest ih =>
      rcases name_cases tool first with before | same | after
      · rw [insert_before tool first rest before]
        exact unfound _
      · rw [insert_same tool first rest same, unfound,
          List.find?_cons_of_neg (by simpa [← same] using different)]
      · rw [insert_after tool first rest after, List.find?_cons, List.find?_cons, ih]

theorem lookup_register (registry : ToolRegistry) (name : String) :
    (registry.register tool).lookup name =
      if tool.name = name then some tool else registry.lookup name := by
  by_cases named : tool.name = name
  · rw [if_pos named, ← named]
    exact find_inserted tool registry.tools
  · rw [if_neg named]
    exact find_other tool registry.tools name named

theorem last_named_cons (name : String) :
    lastNamed (tool :: rest) name =
      (lastNamed rest name).or (if tool.name = name then some tool else none) := by
  rw [lastNamed, List.reverse_cons, List.find?_append]
  by_cases named : tool.name = name <;> simp [lastNamed, named]

theorem lookup_registered (tools : List Tool) (registry : ToolRegistry) (name : String) :
    (tools.foldl register registry).lookup name =
      (lastNamed tools name).or (registry.lookup name) := by
  induction tools generalizing registry with
  | nil => rfl
  | cons tool rest ih =>
      rw [List.foldl_cons, ih, lookup_register, last_named_cons, Option.or_assoc]
      by_cases named : tool.name = name <;> simp [named]

theorem lookup_last (tools : List Tool) (name : String) :
    (ofTools tools).lookup name = lastNamed tools name := by
  rw [ofTools, lookup_registered]
  exact Option.or_none

theorem registered_ascending (tools : List Tool) (registry : ToolRegistry)
    (ascending : Ascending registry.tools) : Ascending (tools.foldl register registry).tools := by
  induction tools generalizing registry with
  | nil => exact ascending
  | cons tool rest ih => exact ih _ (insert_ascending tool registry.tools ascending)

theorem of_tools_ascending (tools : List Tool) : Ascending (ofTools tools).tools :=
  registered_ascending tools {} List.Pairwise.nil

theorem lookup_of_member (tools : List Tool) (ascending : Ascending tools) (member : tool ∈ tools) :
    lookup ⟨tools⟩ tool.name = some tool := by
  induction tools with
  | nil => cases member
  | cons first rest ih =>
      obtain ⟨above, ordered⟩ := List.pairwise_cons.mp ascending
      rcases List.mem_cons.mp member with rfl | later
      · exact List.find?_cons_of_pos (by simp)
      · rw [lookup, List.find?_cons_of_neg (by simpa using String.ne_of_lt (above tool later))]
        exact ih ordered later

theorem mem_names_iff (registry : ToolRegistry) (name : String) :
    name ∈ registry.names ↔ (registry.lookup name).isSome := by
  simp [names, lookup]

theorem last_named_iff (tools : List Tool) (name : String) :
    (lastNamed tools name).isSome ↔ ∃ tool ∈ tools, tool.name = name := by
  simp [lastNamed]

-- By cases of where the later name goes, since the earlier one is put in at or before that place.
theorem insert_comm_less (first second : Tool) (tools : List Tool)
    (less : first.name < second.name) :
    insert first (insert second tools) = insert second (insert first tools) := by
  induction tools with
  | nil =>
      change insert first [second] = insert second [first]
      rw [insert_before first second [] less, insert_after second first [] less]
      rfl
  | cons other rest ih =>
      rcases name_cases second other with before | same | after
      · have smaller := String.lt_trans less before
        rw [insert_before second other rest before, insert_before first second _ less,
          insert_before first other rest smaller, insert_after second first _ less,
          insert_before second other rest before]
      · rw [insert_same second other rest same, insert_before first second rest less,
          insert_before first other rest (same ▸ less), insert_after second first _ less,
          insert_same second other rest same]
      · rw [insert_after second other rest after]
        rcases name_cases first other with smaller | equal | larger
        · rw [insert_before first other _ smaller, insert_before first other rest smaller,
            insert_after second first _ less, insert_after second other rest after]
        · rw [insert_same first other _ equal, insert_same first other rest equal,
            insert_after second first rest less]
        · rw [insert_after first other _ larger, insert_after first other rest larger,
            insert_after second other _ after, ih]

theorem register_comm (registry : ToolRegistry) (first second : Tool)
    (different : first.name ≠ second.name) :
    (registry.register first).register second = (registry.register second).register first := by
  rcases name_cases first second with less | same | more
  · exact congrArg mk (insert_comm_less first second registry.tools less).symm
  · exact absurd same different
  · exact congrArg mk (insert_comm_less second first registry.tools more)

end Dialogue.ToolRegistry
