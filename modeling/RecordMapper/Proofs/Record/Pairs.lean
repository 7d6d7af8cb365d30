import RecordMapper.Model
import RecordMapper.Proofs.Record.Assignments
import RecordMapper.Proofs.Reordering

namespace RecordMapper

namespace Schema

def Takes (s : Schema) (p : String × Value) : Prop := ∃ c, s.column? p.1 = some c ∧ c.Holds p.2

end Schema

namespace Record

variable {r r' : Record} {pairs pairs' : List (String × Value)}

end Record

namespace Sample

end Sample

end RecordMapper
