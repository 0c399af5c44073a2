import Questionnaire.Session.Entries

/-!
# Commands of a session

`Session.Command` lists everything that can be done with a session, and `run` does it.
-/

namespace Questionnaire.Session

/-- What can be done with a session. -/
inductive Command where
  | isVisible (id : Value)
  | getAnswer (id : Value)
  | setAnswer (id value : Value)
  | updateAnswers (values : Value)
  | entries (id : Value)
  | canAddEntry (id : Value)
  | canRemoveEntry (id : Value)
  | addEntry (id : Value)
  | removeEntry (id index : Value)
  | setEntryAnswer (id index sub value : Value)
  | validate
  | submit
  | contract

/-- What a command answers. -/
inductive Answer where
  | value (v : Value)
  | report (r : Report)
  | submission (s : Submission)
  | contract (c : Contract)

/-- Runs a command. -/
def run : Command → InSession Answer
  | .isVisible id => do pure (.value (.bool (← (← get).isVisible id)))
  | .getAnswer id => do pure (.value (← (← get).answerAt id))
  | .setAnswer id v => do setAnswer id v; pure (.value .null)
  | .updateAnswers values => do updateAnswers values; pure (.value .null)
  | .entries id => do pure (.value (.list (← (← get).entries id)))
  | .canAddEntry id => do pure (.value (.bool (← (← get).canAddEntry id)))
  | .canRemoveEntry id => do pure (.value (.bool (← (← get).canRemoveEntry id)))
  | .addEntry id => do pure (.value (.bool (← addEntry id)))
  | .removeEntry id index => do pure (.value (.bool (← removeEntry id index)))
  | .setEntryAnswer id index sub v => do setEntryAnswer id index sub v; pure (.value .null)
  | .validate => do pure (.report (← (← get).validate))
  | .submit => do pure (.submission (← (← get).submit))
  | .contract => do pure (.contract (← get).contract)

end Questionnaire.Session
