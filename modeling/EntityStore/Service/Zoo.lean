import EntityStore.Query
import EntityStore.Predicate.Builder

/-! A zoo: animals in cages, their toys and their keepers. -/

namespace EntityStore.Zoo

/-- A keeper with apprentices, who are keepers too. -/
def keeper : EntityType :=
  { name := "ZooKeeper"
    fields :=
      [.identifier "badge",
        .new "name" .option (.scalar .string),
        .scalar "senior" .bool,
        .new "apprentices" .many (.reference "ZooKeeper")] }

/-- A cage, which nothing identifies. -/
def cage : EntityType :=
  { name := "Cage"
    fields := [.scalar "label" .string, .scalar "size" .uint16] }

/-- A toy, perhaps with a spare cage. -/
def toy : EntityType :=
  { name := "Toy"
    fields :=
      [.identifier "id",
        .scalar "kind" .string,
        .new "spare" .option (.reference "Cage")] }

/-- An animal. Its toys and keepers stay when it no longer has them. -/
def animal : EntityType :=
  { name := "Animal"
    fields :=
      [.identifier "tag",
        .scalar "legs" .int8,
        .scalar "teeth" .int16,
        .scalar "rank" .uint8,
        .scalar "code" .uint32,
        .scalar "steps" .int64,
        .scalar "weight" .float32,
        .new "height" .option (.scalar .float64),
        .scalar "born" .timestamp,
        .scalar "tame" .bool,
        .new "scores" .many (.scalar .int64),
        .new "moods" .many (.scalar .bool),
        .new "nicks" .optionMany (.scalar .string),
        .textual "serial" .uint64,
        .new "chip" .option (.textual .uint64),
        .new "lots" .many (.textual .uint64),
        .new "marks" .optionMany (.textual .uint64),
        { Field.scalar "cached" .uint32 with skipped := true },
        .new "cage" .one (.reference "Cage"),
        .new "spare" .option (.reference "Cage"),
        { Field.new "toys" .many (.reference "Toy") with keepOrphans := true },
        { Field.new "keepers" .optionMany (.reference "ZooKeeper") with
          deleteRule := .nullify
          keepOrphans := true }] }

/-- The model of a zoo. -/
def model : Model :=
  { name := "Zoo", entities := [keeper, cage, toy, animal] }

/-- The tame animals with a number of legs between two bounds. -/
def legged (least greatest : Int8) : Query :=
  let legs := KeyPath.root.step "legs" false
  let tame := KeyPath.root.step "tame" false
  QuerySpec.new
    |>.filterBy (.several
        [TypedComparison.predicate legs (.greaterThanOrEqual (.integer least.toInt64)),
          TypedComparison.predicate legs (.lessThanOrEqual (.integer greatest.toInt64))])
    |>.filterBy (.one (TypedComparison.predicate tame .isTrue))
    |>.sortBy (.several [{ key := "legs", ascending := true }, { key := "tag", ascending := false }])
    |>.query model animal.name

/-- Every keeper. -/
def everyone : Query :=
  QuerySpec.new.query model keeper.name

end EntityStore.Zoo
