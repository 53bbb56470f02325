import JxlHeaders.BitReader
import JxlHeaders.Programs
import JxlHeaders.Encodings
import JxlHeaders.Records
import JxlHeaders.CoderSound
import JxlHeaders.FrameHeader
import JxlHeaders.FieldsSound
import JxlHeaders.CheckSound
import JxlHeaders.TocSound
import JxlHeaders.DecodeSound
import JxlHeaders.BlendingSound
import JxlHeaders.ErrorSound
import JxlHeaders.RoundTrip
import JxlHeaders.ValueRoundTrip
import JxlHeaders.RecordRoundTrip
import JxlHeaders.HeaderRoundTrip
import JxlHeaders.Predict
import JxlHeaders.Image
import JxlHeaders.Cli
import JxlHeaders.ProcessLoopSound
import JxlHeaders.DecodeJxlSound
import JxlHeaders.MainSound
