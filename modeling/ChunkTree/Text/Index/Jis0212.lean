import ChunkTree.Text.CodeIndex

/-!
# The JIS X 0212 index

The supplementary kanji of JIS X 0212 by pointer, sixteen a row.
-/

namespace ChunkTree.Text

set_option maxRecDepth 8000 in
def jis0212 : CodeIndex where
  width := 16
  rows := #[
    0,
    0,
    0,
    0,
    0,
    0,
    0x00000000000000000000000000000000000000000000000002d802c700b802d9,
    0x02dd00af02db02daff5e038403850000000000000000000000000000000000a1,
    0x00a600bf00000000000000000000000000000000000000000000000000000000,
    0,
    0x0000000000000000000000000000000000ba00aa00a900ae212200a421160000,
    0,
    0,
    0,
    0,
    0,
    0,
    0,
    0,
    0,
    0,
    0,
    0,
    0,
    0,
    0,
    0,
    0,
    0,
    0,
    0,
    0,
    0,
    0x000000000000000000000000038603880389038a03aa0000038c0000038e03ab,
    0x0000038f000000000000000003ac03ad03ae03af03ca039003cc03c203cd03cb,
    0x03b003ce00000000000000000000000000000000000000000000000000000000,
    0,
    0x0000000000000000000004020403040404050406040704080409040a040b040c,
    0x040e040f00000000000000000000000000000000000000000000000000000000,
    0,
    0x0000000000000000000004520453045404550456045704580459045a045b045c,
    0x045e045f00000000000000000000000000000000000000000000000000000000,
    0,
    0,
    0,
    0,
    0,
    0x00c60110000001260000013200000141013f0000014a00d801520000016600de,
    0,
    0x00e6011100f00127013101330138014201400149014b00f8015300df016700fe,
    0,
    0,
    0x0000000000000000000000000000000000000000000000000000000000c100c0,
    0x00c400c2010201cd0100010400c500c301060108010c00c7010a010e00c900c8,
    0x00cb00ca011a0116011201180000011c011e01220120012400cd00cc00cf00ce,
    0x01cf0130012a012e0128013401360139013d013b01430147014500d100d300d2,
    0x00d600d401d10150014c00d5015401580156015a015c0160015e0164016200da,
    0x00d900dc00db016c01d30170016a0172016e016801d701db01d901d5017400dd,
    0x017801760179017d017b000000000000000000000000000000e100e000e400e2,
    0x010301ce0101010500e500e301070109010d00e7010b010f00e900e800eb00ea,
    0x011b01170113011901f5011d011f00000121012500ed00ec00ef00ee01d00000,
    0x012b012f012901350137013a013e013c01440148014600f100f300f200f600f4,
    0x01d20151014d00f5015501590157015b015d0161015f0165016300fa00f900fc,
    0x00fb016d01d40171016b0173016f016901d801dc01da01d6017500fd00ff0177,
    0x017a017e017c0000000000000000000000000000000000000000000000000000,
    0,
    0,
    0,
    0,
    0,
    0,
    0,
    0,
    0,
    0,
    0,
    0,
    0,
    0,
    0,
    0,
    0,
    0,
    0,
    0,
    0,
    0,
    0,
    0x000000004e024e044e054e0c4e124e1f4e234e244e284e2b4e2e4e2f4e304e35,
    0x4e404e414e444e474e514e5a4e5c4e634e684e694e744e754e794e7f4e8d4e96,
    0x4e974e9d4eaf4eb94ec34ed04eda4edb4ee04ee14ee24ee84eef4ef14ef34ef5,
    0x4efd4efe4eff4f004f024f034f084f0b4f0c4f124f154f164f174f194f2e4f31,
    0x4f604f334f354f374f394f3b4f3e4f404f424f484f494f4b4f4c4f524f544f56,
    0x4f584f5f4f634f6a4f6c4f6e4f714f774f784f794f7a4f7d4f7e4f814f824f84,
    0x4f854f894f8a4f8c4f8e4f904f924f934f944f974f994f9a4f9e4f9f4fb24fb7,
    0x4fb94fbb4fbc4fbd4fbe4fc04fc14fc54fc64fc84fc94fcb4fcc4fcd4fcf4fd2,
    0x4fdc4fe04fe24ff04ff24ffc4ffd4fff5000500150045007500a500c500e5010,
    0x501350175018501b501c501d501e50225027502e503050325033503550405041,
    0x504250455046504a504c504e50515052505350575059505f5060506250635066,
    0x5067506a506d50705071503b5081508350845086508a508e508f509050925093,
    0x50945096509b509c509e509f50a050a150a250aa50af50b050b950ba50bd50c0,
    0x50c350c450c750cc50ce50d050d350d450d850dc50dd50df50e250e450e650e8,
    0x50e950ef50f150f650fa50fe5103510651075108510b510c510d510e50f25110,
    0x51175119511b511c511d511e512351275128512c512d512f5131513351345135,
    0x513851395142514a514f5153515551575158515f51645166517e51835184518b,
    0x518e5198519d51a151a351ad51b851ba51bc51be51bf51c251c851cf51d151d2,
    0x51d351d551d851de51e251e551ee51f251f351f451f752015202520552125213,
    0x52155216521852225228523152325235523c52455249525552575258525a525c,
    0x525f526052615266526e527752785279528052825285528a528c529352955296,
    0x52975298529a529c52a452a552a652a752af52b052b652b752b852ba52bb52bd,
    0x52c052c452c652c852cc52cf52d152d452d652db52dc52e152e552e852e952ea,
    0x52ec52f052f152f452f652f753005303530a530b530c531153135318531b531c,
    0x531e531f5325532753285329532b532c532d533053325335533c533d533e5342,
    0x534c534b5359535b536153635365536c536d53725379537e538353875388538e,
    0x539353945399539d53a153a453aa53ab53af53b253b453b553b753b853ba53bd,
    0x53c053c553cf53d253d353d553da53dd53de53e053e653e753f554025413541a,
    0x542154275428542a542f543154345435544354445447544d544f545e54625464,
    0x546654675469546b546d546e5474547f54815483548554885489548d54915495,
    0x5496549c549f54a154a654a754a954aa54ad54ae54b154b754b954ba54bb54bf,
    0x54c654ca54cd54ce54e054ea54ec54ef54f654fc54fe54ff5500550155055508,
    0x5509550c550d550e5515552a552b553255355536553b553c553d554155475549,
    0x554a554d555055515558555a555b555e5560556155645566557f558155825586,
    0x5588558e558f5591559255935594559755a355a455ad55b255bf55c155c355c6,
    0x55c955cb55cc55ce55d155d255d355d755d855db55de55e255e955f655ff5605,
    0x5608560a560d560e560f5610561156125619562c56305633563556375639563b,
    0x563c563d563f564056415643564456465649564b564d564f5654565e56605661,
    0x5662566356665669566d566f567156725675568456855688568b568c56955699,
    0x569a569d569e569f56a656a756a856a956ab56ac56ad56b156b356b756be56c5,
    0x56c956ca56cb56cf56d056cc56cd56d956dc56dd56df56e156e456e556e656e7,
    0x56e856f156eb56ed56f656f7570157025707570a570c57115715571a571b571d,
    0x572057225723572457255729572a572c572e572f57335734573d573e573f5745,
    0x5746574c574d57525762576557675768576b576d576e576f5770577157735774,
    0x577557775779577a577b577c577e57815783578c579457975799579a579c579d,
    0x579e579f57a1579557a757a857a957ac57b857bd57c757c857cc57cf57d557dd,
    0x57de57e457e657e757e957ed57f057f557f657f857fd57fe57ff580358045808,
    0x580957e1580c580d581b581e581f582058265827582d58325839583f5849584c,
    0x584d584f58505855585f58615864586758685878587c587f5880588158875888,
    0x5889588a588c588d588f589058945896589d58a058a158a258a658a958b158b2,
    0x58c458bc58c258c858cd58ce58d058d258d458d658da58dd58e158e258e958f3,
    0x59055906590b590c5912591359148641591d5921592359245928592f59305933,
    0x59355936593f59435946595259535959595b595d595e595f59615963596b596d,
    0x596f5972597559765979597b597c598b598c598e599259955997599f59a459a7,
    0x59ad59ae59af59b059b359b759ba59bc59c159c359c459c859ca59cd59d259dd,
    0x59de59df59e359e459e759ee59ef59f159f259f459f75a005a045a0c5a0d5a0e,
    0x5a125a135a1e5a235a245a275a285a2a5a2d5a305a445a455a475a485a4c5a50,
    0x5a555a5e5a635a655a675a6d5a775a7a5a7b5a7e5a8b5a905a935a965a995a9c,
    0x5a9e5a9f5aa05aa25aa75aac5ab15ab25ab35ab55ab85aba5abb5abf5ac45ac6,
    0x5ac85acf5ada5adc5ae05ae55aea5aee5af55af65afd5b005b015b085b175b34,
    0x5b195b1b5b1d5b215b255b2d5b385b415b4b5b4c5b525b565b5e5b685b6e5b6f,
    0x5b7c5b7d5b7e5b7f5b815b845b865b8a5b8e5b905b915b935b945b965ba85ba9,
    0x5bac5bad5baf5bb15bb25bb75bba5bbc5bc05bc15bcd5bcf5bd65bd75bd85bd9,
    0x5bda5be05bef5bf15bf45bfd5c0c5c175c1e5c1f5c235c265c295c2b5c2c5c2e,
    0x5c305c325c355c365c595c5a5c5c5c625c635c675c685c695c6d5c705c745c75,
    0x5c7a5c7b5c7c5c7d5c875c885c8a5c8f5c925c9d5c9f5ca05ca25ca35ca65caa,
    0x5cb25cb45cb55cba5cc95ccb5cd25cdd5cd75cee5cf15cf25cf45d015d065d0d,
    0x5d125d2b5d235d245d265d275d315d345d395d3d5d3f5d425d435d465d485d55,
    0x5d515d595d4a5d5f5d605d615d625d645d6a5d6d5d705d795d7a5d7e5d7f5d81,
    0x5d835d885d8a5d925d935d945d955d995d9b5d9f5da05da75dab5db05db45db8,
    0x5db95dc35dc75dcb5dd05dce5dd85dd95de05de45de95df85df95e005e075e0d,
    0x5e125e145e155e185e1f5e205e2e5e285e325e355e3e5e4b5e505e495e515e56,
    0x5e585e5b5e5c5e5e5e685e6a5e6b5e6c5e6d5e6e5e705e805e8b5e8e5ea25ea4,
    0x5ea55ea85eaa5eac5eb15eb35ebd5ebe5ebf5ec65ecc5ecb5ece5ed15ed25ed4,
    0x5ed55edc5ede5ee55eeb5f025f065f075f085f0e5f195f1c5f1d5f215f225f23,
    0x5f245f285f2b5f2c5f2e5f305f345f365f3b5f3d5f3f5f405f445f455f475f4d,
    0x5f505f545f585f5b5f605f635f645f675f6f5f725f745f755f785f7a5f7d5f7e,
    0x5f895f8d5f8f5f965f9c5f9d5fa25fa75fab5fa45fac5faf5fb05fb15fb85fc4,
    0x5fc75fc85fc95fcb5fd05fd15fd25fd35fd45fde5fe15fe25fe85fe95fea5fec,
    0x5fed5fee5fef5ff25ff35ff65ffa5ffc6007600a600d6013601460176018601a,
    0x601f6024602d603360356040604760486049604c6051605460566057605d6061,
    0x60676071607e607f608260866088608a608e6091609360956098609d609e60a2,
    0x60a460a560a860b060b160b760bb60be60c260c460c860c960ca60cb60ce60cf,
    0x60d460d560d960db60dd60de60e260e560f260f560f860fc60fd61026107610a,
    0x610c61106111611261136114611661176119611c611e6122612a612b61306131,
    0x61356136613761396141614561466149615e6160616c61726178617b617c617f,
    0x6180618161836184618b618d6192619361976198619c619d619f61a061a561a8,
    0x61aa61ad61b861b961bc61c061c161c261ce61cf61d561dc61dd61de61df61e1,
    0x61e261e761e961e561ec61ed61ef620162036204620762136215621c62206222,
    0x622362276229622b6239623d6242624362446246624c62506251625262546256,
    0x625a625c6264626d626f6273627a627d628d628e628f629062a662a862b362b6,
    0x62b762ba62be62bf62c462ce62d562d662da62ea62f262f462fc62fd63036304,
    0x630a630b630d63106313631663186329632a632d633563366339633c63416342,
    0x634363446346634a634b634e6352635363546358635b63656366636c636d6371,
    0x637463756378637c637d637f638263846387638a6390639463956399639a639e,
    0x63a463a663ad63ae63af63bd63c163c563c863ce63d163d363d463d563dc63e0,
    0x63e563ea63ec63f263f363f563f863f96409640a6410641264146418641e6420,
    0x6422642464256429642a642f64306435643d643f644b644f6451645264536454,
    0x645a645b645c645d645f646064616463646d64736474647b647d64856487648f,
    0x6490649164986499649b649d649f64a164a364a664a864ac64b364bd64be64bf,
    0x64c464c964ca64cb64cc64ce64d064d164d564d764e464e564e964ea64ed64f0,
    0x64f564f764fb64ff6501650465086509650a650f6513651465166519651b651e,
    0x651f652265266529652e6531653a653c653d654365476549655065526554655f,
    0x65606567656b657a657d65816585658a659265956598659d65a065a365a665ae,
    0x65b265b365b465bf65c265c865c965ce65d065d465d665d865df65f065f265f4,
    0x65f565f965fe65ff6600660466086609660d6611661266156616661d661e6621,
    0x66226623662466266629662a662b662c662e6630663166336639663766406645,
    0x6646664a664c6651664e665766586659665b665c6660666166fb666a666b666c,
    0x667e66736675667f667766786679667b6680667c668b668c668d669066926699,
    0x669a669b669c669f66a066a466ad66b166b266b566bb66bf66c066c266c366c8,
    0x66cc66ce66cf66d466db66df66e866eb66ec66ee66fa67056707670e67136719,
    0x671c672067226733673e674567476748674c67546755675d6766676c676e6774,
    0x6776677b67816784678e678f67916793679667986799679b67b067b167b267b5,
    0x67bb67bc67bd67f967c067c267c367c567c867c967d267d767d967dc67e167e6,
    0x67f067f267f667f7685268146819681d681f68286827682c682d682f68306831,
    0x6833683b683f68446845684a684c685568576858685b686b686e686f68706871,
    0x687268756879687a687b687c688268846886688868966898689a689c68a168a3,
    0x68a568a968aa68ae68b268bb68c568c868cc68cf68d068d168d368d668d968dc,
    0x68dd68e568e868ea68eb68ec68ed68f068f168f568f668fb68fc68fd69066909,
    0x690a691069116913691669176931693369356938693b694269456949694e6957,
    0x695b696369646965696669686969696c697069716972697a697b697f6980698d,
    0x69926996699869a169a569a669a869ab69ad69af69b769b869ba69bc69c569c8,
    0x69d169d669d769e269e569ee69ef69f169f369f569fe6a006a016a036a0f6a11,
    0x6a156a1a6a1d6a206a246a286a306a326a346a376a3b6a3e6a3f6a456a466a49,
    0x6a4a6a4e6a506a516a526a556a566a5b6a646a676a6a6a716a736a7e6a816a83,
    0x6a866a876a896a8b6a916a9b6a9d6a9e6a9f6aa56aab6aaf6ab06ab16ab46abd,
    0x6abe6abf6ac66ac96ac86acc6ad06ad46ad56ad66adc6add6ae46ae76aec6af0,
    0x6af16af26afc6afd6b026b036b066b076b096b0f6b106b116b176b1b6b1e6b24,
    0x6b286b2b6b2c6b2f6b356b366b3b6b3f6b466b4a6b4d6b526b566b586b5d6b60,
    0x6b676b6b6b6e6b706b756b7d6b7e6b826b856b976b9b6b9f6ba06ba26ba36ba8,
    0x6ba96bac6bad6bae6bb06bb86bb96bbd6bbe6bc36bc46bc96bcc6bd66bda6be1,
    0x6be36be66be76bee6bf16bf76bf96bff6c026c046c056c096c0d6c0e6c106c12,
    0x6c196c1f6c266c276c286c2c6c2e6c336c356c366c3a6c3b6c3f6c4a6c4b6c4d,
    0x6c4f6c526c546c596c5b6c5c6c6b6c6d6c6f6c746c766c786c796c7b6c856c86,
    0x6c876c896c946c956c976c986c9c6c9f6cb06cb26cb46cc26cc66ccd6ccf6cd0,
    0x6cd16cd26cd46cd66cda6cdc6ce06ce76ce96ceb6cec6cee6cf26cf46d046d07,
    0x6d0a6d0e6d0f6d116d136d1a6d266d276d286c676d2e6d2f6d316d396d3c6d3f,
    0x6d576d5e6d5f6d616d656d676d6f6d706d7c6d826d876d916d926d946d966d97,
    0x6d986daa6dac6db46db76db96dbd6dbf6dc46dc86dca6dce6dcf6dd66ddb6ddd,
    0x6ddf6de06de26de56de96def6df06df46df66dfc6e006e046e1e6e226e276e32,
    0x6e366e396e3b6e3c6e446e456e486e496e4b6e4f6e516e526e536e546e576e5c,
    0x6e5d6e5e6e626e636e686e736e7b6e7d6e8d6e936e996ea06ea76ead6eae6eb1,
    0x6eb36ebb6ebf6ec06ec16ec36ec76ec86eca6ecd6ece6ecf6eeb6eed6eee6ef9,
    0x6efb6efd6f046f086f0a6f0c6f0d6f166f186f1a6f1b6f266f296f2a6f2f6f30,
    0x6f336f366f3b6f3c6f2d6f4f6f516f526f536f576f596f5a6f5d6f5e6f616f62,
    0x6f686f6c6f7d6f7e6f836f876f886f8b6f8c6f8d6f906f926f936f946f966f9a,
    0x6f9f6fa06fa56fa66fa76fa86fae6faf6fb06fb56fb66fbc6fc56fc76fc86fca,
    0x6fda6fde6fe86fe96ff06ff56ff96ffc6ffd7000700570067007700d70177020,
    0x7023702f703470377039703c7043704470487049704a704b70547055705d705e,
    0x704e70647065706c706e70757076707e70817085708670947095709670977098,
    0x709b70a470ab70b070b170b470b770ca70d170d370d470d570d670d870dc70e4,
    0x70fa71037104710571067107710b710c710f711e7120712b712d712f71307131,
    0x71387141714571467147714a714b715071527157715a715c715e716071687179,
    0x718071857187718c7192719a719b71a071a271af71b071b271b371ba71bf71c0,
    0x71c171c471cb71cc71d371d671d971da71dc71f871fe72007207720872097213,
    0x7217721a721d721f7224722b722f7234723872397241724272437245724e724f,
    0x7250725372557256725a725c725e726072637268726b726e726f727172777278,
    0x727b727c727f72847289728d728e7293729b72a872ad72ae72b172b472be72c1,
    0x72c772c972cc72d572d672d872df72e572f372f472fa72fb72fe730273047305,
    0x7307730b730d7312731373187319731e7322732473277328732c733173327335,
    0x733a733b733d7343734d7350735273567358735d735e735f7360736673677369,
    0x736b736c736e736f737173777379737c73807381738373857386738e73907393,
    0x739573977398739c739e739f73a073a273a573a673aa73ab73ad73b573b773b9,
    0x73bc73bd73bf73c573c673c973cb73cc73cf73d273d373d673d973dd73e173e3,
    0x73e673e773e973f473f573f773f973fa73fb73fd73ff7400740174047407740a,
    0x7411741a741b7424742674287429742a742b742c742d742e742f743074317439,
    0x74407443744474467447744b744d745174527457745d7462746674677468746b,
    0x746d746e74717472748074817485748674877489748f74907491749274987499,
    0x749a749c749f74a074a174a374a674a874a974aa74ab74ae74af74b174b274b5,
    0x74b974bb74bf74c874c974cc74d074d374d874da74db74de74df74e474e874ea,
    0x74eb74ef74f474fa74fb74fc74ff750675127516751775207521752475277529,
    0x752a752f75367539753d753e753f7540754375477548754e755075527557755e,
    0x755f7561756f75717579757a757b757c757d757e758175857590759275937595,
    0x7599759c75a275a475b475ba75bf75c075c175c475c675cc75ce75cf75d775dc,
    0x75df75e075e175e475e775ec75ee75ef75f175f9760076027603760476077608,
    0x760a760c760f76127613761576167619761b761c761d761e7623762576267629,
    0x762d76327633763576387639763a763c764a764076417643764476457649764b,
    0x76557659765f76647665766d766e766f7671767476817685768c768d7695769b,
    0x769c769d769f76a076a276a376a476a576a676a776a876aa76ad76bd76c176c5,
    0x76c976cb76cc76ce76d476d976e076e676e876ec76f076f176f676f976fc7700,
    0x7706770a770e77127714771577177719771a771c77227728772d772e772f7734,
    0x773577367739773d773e774277457746774a774d774e774f775277567757775c,
    0x775e775f7760776277647767776a776c7770777277737774777a777d77807784,
    0x778c778d779477957796779a779f77a277a777aa77ae77af77b177b577be77c3,
    0x77c977d177d277d577d977de77df77e077e477e677ea77ec77f077f177f477f8,
    0x77fb780578067809780d780e7811781d782178227823782d782e783078357837,
    0x7843784478477848784c784e7852785c785e78607861786378647868786a786e,
    0x787a787e788a788f7894789878a1789d789e789f78a478a878ac78ad78b078b1,
    0x78b278b378bb78bd78bf78c778c878c978cc78ce78d278d378d578d678e478db,
    0x78df78e078e178e678ea78f278f3790078f678f778fa78fb78ff7906790c7910,
    0x791a791c791e791f7920792579277929792d793179347935793b793d793f7944,
    0x79457946794a794b794f795179547958795b795c79677969796b79727979797b,
    0x797c797e798b798c799179937994799579967998799b799c79a179a879a979ab,
    0x79af79b179b479b879bb79c279c479c779c879ca79cf79d479d679da79dd79de,
    0x79e079e279e579ea79eb79ed79f179f879fc7a027a037a077a097a0a7a0c7a11,
    0x7a157a1b7a1e7a217a277a2b7a2d7a2f7a307a347a357a387a397a3a7a447a45,
    0x7a477a487a4c7a557a567a597a5c7a5d7a5f7a607a657a677a6a7a6d7a757a78,
    0x7a7e7a807a827a857a867a8a7a8b7a907a917a947a9e7aa07aa37aac7ab37ab5,
    0x7ab97abb7abc7ac67ac97acc7ace7ad17adb7ae87ae97aeb7aec7af17af47afb,
    0x7afd7afe7b077b147b1f7b237b277b297b2a7b2b7b2d7b2e7b2f7b307b317b34,
    0x7b3d7b3f7b407b417b477b4e7b557b607b647b667b697b6a7b6d7b6f7b727b73,
    0x7b777b847b897b8e7b907b917b967b9b7b9e7ba07ba57bac7baf7bb07bb27bb5,
    0x7bb67bba7bbb7bbc7bbd7bc27bc57bc87bca7bd47bd67bd77bd97bda7bdb7be8,
    0x7bea7bf27bf47bf57bf87bf97bfa7bfc7bfe7c017c027c037c047c067c097c0b,
    0x7c0c7c0e7c0f7c197c1b7c207c257c267c287c2c7c317c337c347c367c397c3a,
    0x7c467c4a7c557c517c527c537c597c5a7c5b7c5c7c5d7c5e7c617c637c677c69,
    0x7c6d7c6e7c707c727c797c7c7c7d7c867c877c8f7c947c9e7ca07ca67cb07cb6,
    0x7cb77cba7cbb7cbc7cbf7cc47cc77cc87cc97ccd7ccf7cd37cd47cd57cd77cd9,
    0x7cda7cdd7ce67ce97ceb7cf57d037d077d087d097d0f7d117d127d137d167d1d,
    0x7d1e7d237d267d2a7d2d7d317d3c7d3d7d3e7d407d417d477d487d4d7d517d53,
    0x7d577d597d5a7d5c7d5d7d657d677d6a7d707d787d7a7d7b7d7f7d817d827d83,
    0x7d857d867d887d8b7d8c7d8d7d917d967d977d9d7d9e7da67da77daa7db37db6,
    0x7db77db97dc27dc37dc47dc57dc67dcc7dcd7dce7dd77dd97e007de27de57de6,
    0x7dea7deb7ded7df17df57df67df97dfa7e087e107e117e157e177e1c7e1d7e20,
    0x7e277e287e2c7e2d7e2f7e337e367e3f7e447e457e477e4e7e507e527e587e5f,
    0x7e617e627e657e6b7e6e7e6f7e737e787e7e7e817e867e877e8a7e8d7e917e95,
    0x7e987e9a7e9d7e9e7f3c7f3b7f3d7f3e7f3f7f437f447f477f4f7f527f537f5b,
    0x7f5c7f5d7f617f637f647f657f667f6d7f717f7d7f7e7f7f7f807f8b7f8d7f8f,
    0x7f907f917f967f977f9c7fa17fa27fa67faa7fad7fb47fbc7fbf7fc07fc37fc8,
    0x7fce7fcf7fdb7fdf7fe37fe57fe87fec7fee7fef7ff27ffa7ffd7ffe7fff8007,
    0x8008800a800d800e800f8011801380148016801d801e801f802080248026802c,
    0x802e80308034803580378039803a803c803e80408044806080648066806d8071,
    0x807580818088808e809c809e80a680a780ab80b880b980c880cd80cf80d280d4,
    0x80d580d780d880e080ed80ee80f080f280f380f680f980fa80fe8103810b8116,
    0x81178118811c811e812081248127812c81308135813a813c81458147814a814c,
    0x8152815781608161816781688169816d816f817781818190818481858186818b,
    0x818e81968198819b819e81a281ae81b281b481bb81cb81c381c581ca81ce81cf,
    0x81d581d781db81dd81de81e181e481eb81ec81f081f181f281f581f681f881f9,
    0x81fd81ff82008203820f821382148219821a821d82218222822882328234823a,
    0x8243824482458246824b824e824f82518256825c826082638267826d8274827b,
    0x827d827f828082818283828482878289828a828e8291829482968298829a829b,
    0x82a082a182a382a482a782a882a982aa82ae82b082b282b482b782ba82bc82be,
    0x82bf82c682d082d582da82e082e282e482e882ea82ed82ef82f682f782fd82fe,
    0x8300830183078308830a830b8354831b831d831e831f83218322832c832d832e,
    0x833083338337833a833c833d8342834383448347834d834e8351835583568357,
    0x83708378837d837f8380838283848386838d83928394839583988399839b839c,
    0x839d83a683a783a983ac83be83bf83c083c783c983cf83d083d183d483dd8353,
    0x83e883ea83f683f883f983fc84018406840a840f84118415841983ad842f8439,
    0x844584478448844a844d844f84518452845684588459845a845c846084648465,
    0x8467846a84708473847484768478847c847d84818485849284938495849e84a6,
    0x84a884a984aa84af84b184b484ba84bd84be84c084c284c784c884cc84cf84d3,
    0x84dc84e784ea84ef84f084f184f284f7853284fa84fb84fd850285038507850c,
    0x850e8510851c851e85228523852485258527852a852b852f853385348536853f,
    0x8546854f855085518552855385568559855c855d855e855f8560856185628564,
    0x856b856f8579857a857b857d857f8581858585868589858b858c858f85938598,
    0x859d859f85a085a285a585a785b485b685b785b885bc85bd85be85bf85c285c7,
    0x85ca85cb85ce85ad85d885da85df85e085e685e885ed85f385f685fc85ff8600,
    0x86048605860d860e86108611861286188619861b861e86218627862986368638,
    0x863a863c863d864086428646865286538656865786588659865d866086618662,
    0x866386648669866c866f867586768677867a868d869186968698869a869c86a1,
    0x86a686a786a886ad86b186b386b486b586b786b886b986bf86c086c186c386c5,
    0x86d186d286d586d786da86dc86e086e386e586e7868886fa86fc86fd87048705,
    0x8707870b870e870f8710871387148719871e871f872187238728872e872f8731,
    0x87328739873a873c873d873e874087438745874d8758875d876187648765876f,
    0x87718772877b8783878487858786878787888789878b878c8790879387958797,
    0x87988799879e87a087a387a787ac87ad87ae87b187b587be87bf87c187c887c9,
    0x87ca87ce87d587d687d987da87dc87df87e287e387e487ea87eb87ed87f187f3,
    0x87f887fa87ff8801880388068809880a880b881088198812881388148818881a,
    0x881b881c881e881f8828882d882e883088328835883a883c8841884388458848,
    0x8849884a884b884e8851885588568858885a885c885f88608864886988718879,
    0x887b88808898889a889b889c889f88a088a888aa88ba88bd88be88c088ca88cb,
    0x88cc88cd88ce88d188d288d388db88de88e788ef88f088f188f588f789018906,
    0x890d890e890f8915891689188919891a891c8920892689278928893089318932,
    0x89358939893a893e89408942894589468949894f89528957895a895b895c8961,
    0x89628963896b896e897089738975897a897b897c897d8989898d899089948995,
    0x899b899c899f89a089a589b089b489b589b689b789bc89d489d589d689d789d8,
    0x89e589e989eb89ed89f189f389f689f989fd89ff8a048a058a078a0f8a118a12,
    0x8a148a158a1e8a208a228a248a268a2b8a2c8a2f8a358a378a3d8a3e8a408a43,
    0x8a458a478a498a4d8a4e8a538a568a578a588a5c8a5d8a618a658a678a758a76,
    0x8a778a798a7a8a7b8a7e8a7f8a808a838a868a8b8a8f8a908a928a968a978a99,
    0x8a9f8aa78aa98aae8aaf8ab38ab68ab78abb8abe8ac38ac68ac88ac98aca8ad1,
    0x8ad38ad48ad58ad78add8adf8aec8af08af48af58af68afc8aff8b058b068b0b,
    0x8b118b1c8b1e8b1f8b0a8b2d8b308b378b3c8b428b438b448b458b468b488b52,
    0x8b538b548b598b4d8b5e8b638b6d8b768b788b798b7c8b7e8b818b848b858b8b,
    0x8b8d8b8f8b948b958b9c8b9e8b9f8c388c398c3d8c3e8c458c478c498c4b8c4f,
    0x8c518c538c548c578c588c5b8c5d8c598c638c648c668c688c698c6d8c738c75,
    0x8c768c7b8c7e8c868c878c8b8c908c928c938c998c9b8c9c8ca48cb98cba8cc5,
    0x8cc68cc98ccb8ccf8cd68cd58cd98cdd8ce18ce88cec8cef8cf08cf28cf58cf7,
    0x8cf88cfe8cff8d018d038d098d128d178d1b8d658d698d6c8d6e8d7f8d828d84,
    0x8d888d8d8d908d918d958d9e8d9f8da08da68dab8dac8daf8db28db58db78db9,
    0x8dbb8dc08dc58dc68dc78dc88dca8dce8dd18dd48dd58dd78dd98de48de58de7,
    0x8dec8df08dbc8df18df28df48dfd8e018e048e058e068e0b8e118e148e168e20,
    0x8e218e228e238e268e278e318e338e368e378e388e398e3d8e408e418e4b8e4d,
    0x8e4e8e4f8e548e5b8e5c8e5d8e5e8e618e628e698e6c8e6d8e6f8e708e718e79,
    0x8e7a8e7b8e828e838e898e908e928e958e9a8e9b8e9d8e9e8ea28ea78ea98ead,
    0x8eae8eb38eb58eba8ebb8ec08ec18ec38ec48ec78ecf8ed18ed48edc8ee88eee,
    0x8ef08ef18ef78ef98efa8eed8f008f028f078f088f0f8f108f168f178f188f1e,
    0x8f208f218f238f258f278f288f2c8f2d8f2e8f348f358f368f378f3a8f408f41,
    0x8f438f478f4f8f518f528f538f548f558f588f5d8f5e8f658f9d8fa08fa18fa4,
    0x8fa58fa68fb58fb68fb88fbe8fc08fc18fc68fca8fcb8fcd8fd08fd28fd38fd5,
    0x8fe08fe38fe48fe88fee8ff18ff58ff68ffb8ffe900290049008900c9018901b,
    0x90289029902f902a902c902d903390349037903f90439044904c905b905d9062,
    0x90669067906c90709074907990859088908b908c908e90909095909790989099,
    0x909b90a090a190a290a590b090b290b390b490b690bd90cc90be90c390c490c5,
    0x90c790c890d590d790d890d990dc90dd90df90e590d290f690eb90ef90f090f4,
    0x90fe90ff91009104910591069108910d91109114911691179118911a911c911e,
    0x912091259122912391279129912e912f91319134913691379139913a913c913d,
    0x914391479148914f915391579159915a915b916191649167916d91749179917a,
    0x917b9181918391859186918a918e91919193919491959198919e91a191a691a8,
    0x91ac91ad91ae91b091b191b291b391b691bb91bc91bd91bf91c291c391c591d3,
    0x91d491d791d991da91de91e491e591e991ea91ec91ed91ee91ef91f091f191f7,
    0x91f991fb91fd9200920192049205920692079209920a920c9210921292139216,
    0x9218921c921d92239224922592269228922e922f923092339235923692389239,
    0x923a923c923e92409242924392469247924a924d924e924f925192589259925c,
    0x925d926092619265926792689269926e926f927092759276927792789279927b,
    0x927c927d927f92889289928a928d928e929292979299929f92a092a492a592a7,
    0x92a892ab92af92b292b692b892ba92bb92bc92bd92bf92c092c192c292c392c5,
    0x92c692c792c892cb92cc92cd92ce92d092d392d592d792d892d992dc92dd92df,
    0x92e092e192e392e592e792e892ec92ee92f092f992fb92ff930093029308930d,
    0x931193149315931c931d931e931f93219324932593279329932a933393349336,
    0x9337934793489349935093519352935593579358935a935e9364936593679369,
    0x936a936d936f93709371937393749376937a937d937f9380938193829388938a,
    0x938b938d938f939293959398939b939e93a193a393a493a693a893ab93b493b5,
    0x93b693ba93a993c193c493c593c693c793c993ca93cb93cc93cd93d393d993dc,
    0x93de93df93e293e693e793f993f793f893fa93fb93fd94019402940494089409,
    0x940d940e940f941594169417941f942e942f9431943294339434943b943f943d,
    0x944394459448944a944c94559459945c945f946194639468946b946d946e946f,
    0x947194729484948395789579957e95849588958c958d958e959d959e959f95a1,
    0x95a695a995ab95ac95b495b695ba95bd95bf95c695c895c995cb95d095d195d2,
    0x95d395d995da95dd95de95df95e095e495e6961d961e9622962496259626962c,
    0x96319633963796389639963a963c963d9641965296549656965796589661966e,
    0x9674967b967c967e967f9681968296839684968996919696969a969d969f96a4,
    0x96a596a696a996ae96af96b396ba96ca96d25db296d896da96dd96de96df96e9,
    0x96ef96f196fa9702970397059709971a971b971d972197229723972897319733,
    0x97419743974a974e974f975597579758975a975b97639767976a976e97739776,
    0x97779778977b977d977f978097899795979697979799979a979e979f97a297ac,
    0x97ae97b197b297b597b697b897b997ba97bc97be97bf97c197c497c597c797c9,
    0x97ca97cc97cd97ce97d097d197d497d797d897d997dd97de97e097db97e197e4,
    0x97ef97f197f497f797f897fa9807980a9819980d980e98149816981c981e9820,
    0x98239826982b982e982f98309832983398359825983e98449847984a98519852,
    0x9853985698579859985a9862986398659866986a986c98ab98ad98ae98b098b4,
    0x98b798b898ba98bb98bf98c298c598c898cc98e198e398e598e698e798ea98f3,
    0x98f69902990799089911991599169917991a991b991c991f992299269927992b,
    0x993199329933993499359939993a993b993c99409941994699479948994d994e,
    0x995499589959995b995c995e995f9960999b999d999f99a699b099b199b299b5,
    0x99b999ba99bd99bf99c399c999d399d499d999da99dc99de99e799ea99eb99ec,
    0x99f099f499f599f999fd99fe9a029a039a049a0b9a0c9a109a119a169a1e9a20,
    0x9a229a239a249a279a2d9a2e9a339a359a369a389a479a419a449a4a9a4b9a4c,
    0x9a4e9a519a549a569a5d9aaa9aac9aae9aaf9ab29ab49ab59ab69ab99abb9abe,
    0x9abf9ac19ac39ac69ac89ace9ad09ad29ad59ad69ad79adb9adc9ae09ae49ae5,
    0x9ae79ae99aec9af29af39af59af99afa9afd9aff9b009b019b029b039b049b05,
    0x9b089b099b0b9b0c9b0d9b0e9b109b129b169b199b1b9b1c9b209b269b2b9b2d,
    0x9b339b349b359b379b399b3a9b3d9b489b4b9b4c9b559b569b579b5b9b5e9b61,
    0x9b639b659b669b689b6a9b6b9b6c9b6d9b6e9b739b759b779b789b799b7f9b80,
    0x9b849b859b869b879b899b8a9b8b9b8d9b8f9b909b949b9a9b9d9b9e9ba69ba7,
    0x9ba99bac9bb09bb19bb29bb79bb89bbb9bbc9bbe9bbf9bc19bc79bc89bce9bd0,
    0x9bd79bd89bdd9bdf9be59be79bea9beb9bef9bf39bf79bf89bf99bfa9bfd9bff,
    0x9c009c029c0b9c0f9c119c169c189c199c1a9c1c9c1e9c229c239c269c279c28,
    0x9c299c2a9c319c359c369c379c3d9c419c439c449c459c499c4a9c4e9c4f9c50,
    0x9c539c549c569c589c5b9c5d9c5e9c5f9c639c699c6a9c5c9c6b9c689c6e9c70,
    0x9c729c759c779c7b9ce69cf29cf79cf99d0b9d029d119d179d189d1c9d1d9d1e,
    0x9d2f9d309d329d339d349d3a9d3c9d459d3d9d429d439d479d4a9d539d549d5f,
    0x9d639d629d659d699d6a9d6b9d709d769d779d7b9d7c9d7e9d839d849d869d8a,
    0x9d8d9d8e9d929d939d959d969d979d989da19daa9dac9dae9db19db59db99dbc,
    0x9dbf9dc39dc79dc99dca9dd49dd59dd69dd79dda9dde9ddf9de09de59de79de9,
    0x9deb9dee9df09df39df49dfe9e0a9e029e079e0e9e109e119e129e159e169e19,
    0x9e1c9e1d9e7a9e7b9e7c9e809e829e839e849e859e879e8e9e8f9e969e989e9b,
    0x9e9e9ea49ea89eac9eae9eaf9eb09eb39eb49eb59ec69ec89ecb9ed59edf9ee4,
    0x9ee79eec9eed9eee9ef09ef19ef29ef59ef89eff9f029f039f099f0f9f109f11,
    0x9f129f149f169f179f199f1a9f1b9f1f9f229f269f2a9f2b9f2f9f319f329f34,
    0x9f379f399f3a9f3c9f3d9f3f9f419f439f449f459f469f479f539f559f569f57,
    0x9f589f5a9f5d9f5e9f689f699f6d9f6e9f6f9f709f719f739f759f7a9f7d9f8f,
    0x9f909f919f929f949f969f979f9e9fa19fa29fa39fa500000000000000000000]

end ChunkTree.Text
